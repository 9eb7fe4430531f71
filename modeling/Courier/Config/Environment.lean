import Courier.Codec
import Courier.Config.Fault
import Courier.Text.Lower

/-! Deployment environments. Each has its own file of settings; all but the test environment also
read the local file, so that a developer's keys stay out of tests.
-/

namespace Courier.Config

open Courier.Text

/-- A deployment environment. -/
inductive Environment
  | development
  | test
  | staging
  | production
  deriving DecidableEq, Repr

namespace Environment

def name : Environment → String
  | development => "development"
  | test => "test"
  | staging => "staging"
  | production => "production"

/-- The names that stand for an environment. -/
def names : Environment → List String
  | development => ["development", "dev"]
  | test => ["test"]
  | staging => ["staging", "stage"]
  | production => ["production", "prod"]

def all : List Environment := [development, test, staging, production]

def ofName? (name : String) : Option Environment :=
  all.find? (·.names.contains name)

def ofFullName? (name : String) : Option Environment :=
  all.find? (·.name == name)

/-- The environment of a name in capitals or small letters. -/
def parse (raw : String) : Except Fault Environment :=
  match ofName? (lowerText raw) with
  | some environment => .ok environment
  | none =>
    .error (.environment
      (s!"Invalid environment '{raw}'. "
        ++ "Valid values are: development, test, staging, production"))

def readsLocal : Environment → Bool
  | test => false
  | _ => true

def codec : Codec Environment := Codec.named name ofFullName?

end Environment

end Courier.Config
