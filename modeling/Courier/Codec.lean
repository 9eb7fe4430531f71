import Courier.ApiKey
import Courier.Config.Node
import Courier.Json.Printer
import Courier.Json.Reader

/-! The forms of a type of values: how a value is written as JSON, read from JSON, and taken from a
configuration tree. A record's form is the list of its fields, each with a default; a field that is
missing keeps the value it has in the default record.
-/

namespace Courier

open Courier.Config (Node)
open Courier.Json (Reader)

/-- The three forms of a type. -/
structure Codec (α : Type) where
  write : α → Json
  read : Reader α
  convert : Node → Option α

/-- The three forms of a field of a record of type `σ`. -/
structure Codec.Field (σ : Type) where
  name : String
  write : σ → Json
  read : σ → Reader σ
  convert : σ → Node → Option σ

namespace Codec

/-- The field of a name, with a form, a way to look at it and a way to set it. -/
def Field.of (name : String) (codec : Codec α) (get : σ → α) (set : α → σ → σ) : Field σ where
  name
  write s := codec.write (get s)
  read s := codec.read.map (set · s)
  convert s node := (codec.convert node).map (set · s)

def Field.reader (field : Field σ) : Reader.Field σ :=
  ⟨field.name, field.read⟩

def text : Codec String where
  write := .string
  read := Reader.string
  convert := Node.text?

def bool : Codec Bool where
  write := .bool
  read := Reader.bool
  convert := Node.bool?

def word32 : Codec UInt32 where
  write n := Json.nat n.toNat
  read := (Reader.natural UInt32.size).map UInt32.ofNat
  convert node := (node.natural?.filter (· < UInt32.size)).map UInt32.ofNat

def word64 : Codec UInt64 where
  write n := Json.nat n.toNat
  read := (Reader.natural UInt64.size).map UInt64.ofNat
  convert node := (node.natural?.filter (· < UInt64.size)).map UInt64.ofNat

/-- The values of a type that stand for small numbers. -/
def numbered (code : α → Nat) (decode : Nat → Option α) : Codec α where
  write a := Json.nat (code a)
  read ts := do
    let (n, ts) ← Reader.natural 256 ts
    match decode n with
    | some a => return (a, ts)
    | none => .error .mismatch
  convert node := (node.natural?.filter (· < 256)).bind decode

/-- The values of a type that have names. -/
def named (name : α → String) (choose : String → Option α) : Codec α where
  write a := .string (name a)
  read := Reader.choice choose
  convert node := node.choice?.bind choose

def convertTable (entries : List (String × Node)) : List (Field σ) → σ → Option σ
  | [], s => some s
  | field :: fields, s =>
    match Node.find? field.name entries with
    | none => convertTable entries fields s
    | some node => (field.convert s node).bind (convertTable entries fields)

/-- Takes the fields of a record from values in their order; values beyond the last field are left.
-/
def convertItems : List Node → List (Field σ) → σ → Option σ
  | node :: nodes, field :: fields, s => (field.convert s node).bind (convertItems nodes fields)
  | _, _, s => some s

/-- The forms of a record. A field has one default, its value in the default record. It holds where
the field is missing from a record and where the whole record is missing, so an empty record and a
missing one say the same; a type whose fields had a second set of defaults would have no such form.
-/
def record (start : σ) (fields : List (Field σ)) : Codec σ where
  write s := .object (fields.map fun field => (field.name, field.write s))
  read := Reader.record start (fields.map Field.reader)
  convert
    | .table entries => convertTable entries fields start
    | .array items => convertItems items fields start
    | _ => none

/-- The value that a JSON text holds. -/
def decode (codec : Codec α) (json : String) : Except Json.Fault α :=
  codec.read.run json

def encode (codec : Codec α) (a : α) : String :=
  (codec.write a).compact

def apiKey : Codec ApiKey where
  write key := .string key.secret
  read := Reader.string.map ApiKey.mk
  convert node := node.text?.map ApiKey.mk

end Codec

end Courier
