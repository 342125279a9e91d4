/-
  Readers of records.

  A record is written as a map of its fields or as the sequence of their values
  in order.  `Record` says how a record is read: field by field into a draft
  that starts empty, and from the draft to the record when the map or the
  sequence ends.  Keys that the record does not know are skipped.
-/
import SpriteScene.Json.Skim

namespace SpriteScene.Json

/-- How a field is read into a draft. -/
structure Field (σ : Type) where
  key : String
  /-- Whether the draft has the field already. -/
  present : σ → Bool
  read : σ → Reader σ

/-- How a record is read. -/
structure Record (σ α : Type) where
  /-- What the record is called where something else is found. -/
  wanted : String
  /-- The draft without any field. -/
  start : σ
  /-- The fields in order. -/
  fields : List (Field σ)
  /-- The record of the draft of a map. -/
  ofMap : σ → Except Mismatch α
  /-- The record of the draft of a sequence of some length. -/
  ofSequence : (length : Nat) → σ → Except Mismatch α

namespace Record

/-- What a key of the map of a record means. -/
def member (r : Record σ α) (st : σ) (key : String) : Member σ :=
  match r.fields.find? (·.key = key) with
  | some field => if field.present st then .repeated else .value (field.read st)
  | none => .value fun cs => (skipValue cs).map fun (_, cs) => (st, cs)

/-- Reads the values of fields up to the end of a sequence or of the fields, and
    counts them. -/
def readFields : (fields : List (Field σ)) → (count : Nat) → σ → Reader (Nat × σ)
  | [], count, st, cs => .ok ((count, st), cs)
  | field :: fields, count, st, cs => do
    match ← nextElement (count = 0) cs with
    | none => return ((count, st), cs)
    | some cs =>
      let (st, cs) ← field.read st cs
      readFields fields (count + 1) st cs

/-- A record read from a draft, or the fault of one that is not complete. -/
def finish (result : Except Mismatch α) (cs : List Char) : Except Fault (α × List Char) :=
  match result with
  | .ok a => .ok (a, cs)
  | .error m => .error (.mismatch m)

/-- Reads a record. -/
def read (r : Record σ α) : Reader α :=
  atValue fun c cs =>
    if c = '\x7b' then do
      let (st, cs) ← members r.member r.start cs
      finish (r.ofMap st) cs
    else if c = '[' then do
      let ((count, st), cs) ← readFields r.fields 0 r.start cs
      let (a, cs) ← finish (r.ofSequence count st) cs
      let cs ← closeSequence cs
      return (a, cs)
    else .error (wrongKind r.wanted c cs)

end Record

/-- A field that has to be there. -/
def required (key : String) : Option α → Except Mismatch α
  | some a => .ok a
  | none => .error (.missing key)

end SpriteScene.Json
