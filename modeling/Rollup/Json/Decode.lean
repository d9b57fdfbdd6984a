import Rollup.Json.Printer
import Rollup.Json.Reader
import Rollup.Text.Shown
/-!
Decoding drafts into types of the domain. The first problem in reading order decides, and a failure
says where in the value it arose. A record of named members may also be given as the list of its
members in their declared order.
-/
namespace Rollup.Json

/-- Whether a draft was read from a text or stands for a value known as a whole. -/
inductive Source where
  | text
  | value
  deriving Repr, DecidableEq

/-- The kind of value met where another kind was expected. -/
inductive Found where
  | null
  | bool (value : Bool)
  | number (value : Number)
  | text (value : String)
  | list
  | record
  deriving Repr, DecidableEq

/-- Why a value is not the one expected. -/
inductive Mismatch where
  | wrongKind (found : Found) (expected : String)
  | negative (value : Int)
  | missingMember (name : String)
  | repeatedMember (name : String)
  | tooFewItems (count : Nat) (shape : String) (size : Nat)
  | tooManyItems (count : Nat)
  /-- A choice given as a record that does not have exactly one member. -/
  | notOneMember
  | unreadableInstant
  deriving Repr, DecidableEq

inductive Problem where
  | fault (fault : Fault)
  | mismatch (why : Mismatch)
  deriving Repr, DecidableEq

/-- A step from a value into one of its parts. -/
inductive Step where
  | member (name : String)
  | item (index : Nat)
  deriving Repr, DecidableEq

structure Failure where
  path : List Step
  problem : Problem
  deriving Repr, DecidableEq

/-! ### Wording -/

def Number.describe : Number → String
  | .int i => "integer \x60" ++ toString i ++ "\x60"
  | .float x => "floating point \x60" ++ (Number.float x).print ++ "\x60"

def Found.describe : Found → String
  | .null => "null"
  | .bool b => "boolean \x60" ++ (if b then "true" else "false") ++ "\x60"
  | .number n => n.describe
  | .text s => "string " ++ Text.shown s
  | .list => "sequence"
  | .record => "map"

def Mismatch.message : Mismatch → String
  | .wrongKind found expected => "invalid type: " ++ found.describe ++ ", expected " ++ expected
  | .negative i => "invalid value: " ++ (Number.int i).describe ++ ", expected u64"
  | .missingMember name => "missing field \x60" ++ name ++ "\x60"
  | .repeatedMember name => "duplicate field \x60" ++ name ++ "\x60"
  | .tooFewItems count shape size =>
    "invalid length " ++ toString count ++ ", expected struct " ++ shape ++ " with " ++
      toString size ++ " elements"
  | .tooManyItems count =>
    "invalid length " ++ toString count ++ ", expected fewer elements in array"
  | .notOneMember => "invalid value: map, expected map with a single key"
  | .unreadableInstant => "invalid date-time"

/-- A path: names behind points, places in brackets. -/
def pathText : List Step → String
  | [] => ""
  | .item i :: rest => "[" ++ toString i ++ "]" ++ after rest
  | .member n :: rest => n ++ after rest
where
  after : List Step → String
    | [] => ""
    | .item i :: rest => "[" ++ toString i ++ "]" ++ after rest
    | .member n :: rest => "." ++ n ++ after rest

/-- The message with the path in front of it, if there is one. -/
def Failure.located (path : List Step) (why : Mismatch) : String :=
  if path.isEmpty then why.message else pathText path ++ ": " ++ why.message

/-! ### Decoders -/

abbrev Decoder (α : Type) := Source → Draft → Except Failure α

def Failure.ofFault (f : Fault) : Failure := ⟨[], .fault f⟩

def Failure.ofMismatch (why : Mismatch) : Failure := ⟨[], .mismatch why⟩

/-- Places a failure inside a part. -/
def Failure.within (step : Step) (f : Failure) : Failure := { f with path := step :: f.path }

/-- A fault stops decoding. -/
def orFault {α : Type} (x : Except Fault α) : Except Failure α := x.mapError .ofFault

/-- The failure at a value of another kind than the expected one. Lists and records fail at their
opening bracket, all other values after they were read. -/
def wrongKind (expected : String) : Draft → Failure
  | .null => .ofMismatch (.wrongKind .null expected)
  | .bool b => .ofMismatch (.wrongKind (.bool b) expected)
  | .number n => .ofMismatch (.wrongKind (.number n) expected)
  | .text (.ok s) => .ofMismatch (.wrongKind (.text s) expected)
  | .text (.error f) => .ofFault f
  | .list _ _ => .ofMismatch (.wrongKind .list expected)
  | .record _ _ => .ofMismatch (.wrongKind .record expected)
  | .misnamed _ => .ofMismatch (.wrongKind .record expected)
  | .oversized => .ofFault .malformed
  | .absent f => .ofFault f
  | .brokenText f _ => .ofFault f
  | .brokenWord f _ => .ofFault f

namespace Decode

def text : Decoder String := fun _ d =>
  match d with
  | .text (.ok s) => .ok s
  | d => .error (wrongKind "a string" d)

/-- A natural number of at most sixty-four bits. -/
def natural : Decoder Nat := fun _ d =>
  match d with
  | .number (.int (.ofNat n)) => .ok n
  | .number (.int i) => .error (.ofMismatch (.negative i))
  | d => .error (wrongKind "u64" d)

/-- Null stands for nothing. -/
def optional {α : Type} (decode : Decoder α) : Decoder (Option α) := fun src d =>
  match d with
  | .null => .ok none
  | d => some <$> decode src d

/-- The items of a list, each at its place. -/
def items {α : Type} (decode : Decoder α) (src : Source) :
    Nat → List Draft → Except Failure (List α)
  | _, [] => .ok []
  | i, d :: ds => do
    let x ← (decode src d).mapError (Failure.within (.item i))
    let xs ← items decode src (i + 1) ds
    return x :: xs

def list {α : Type} (decode : Decoder α) : Decoder (List α) := fun src d =>
  match d with
  | .list ds ending => do
    let xs ← items decode src 0 ds
    orFault (Draft.closing ending)
    return xs
  | d => .error (wrongKind "a sequence" d)

/-- The empty payload of a choice written as a record. -/
def noPayload (name : String) : Draft → Except Failure Unit
  | .null => .ok ()
  | d => .error ((wrongKind "unit" d).within (.member name))

/-- A choice among names: a text, or a record whose only member has the name and the value null. -/
def choice {α : Type} (ofName : String → α) : Decoder α := fun src d =>
  match src, d with
  | _, .text (.ok s) => .ok (ofName s)
  | _, .text (.error f) => .error (.ofFault f)
  | .value, .record [(name, payload)] _ => do
    let n ← orFault name
    noPayload n payload
    return ofName n
  | .value, .record _ _ => .error (.ofMismatch .notOneMember)
  | .value, d => .error (wrongKind "string or map" d)
  | .text, .record ((name, payload) :: more) ending => do
    let n ← orFault name
    noPayload n payload
    match more, ending with
    | [], .closed => return ofName n
    | [], .broken false strict _ => .error (.ofFault strict)
    | _, _ => .error (.ofFault .malformed)
  | .text, .record [] .closed => .error (.ofFault .malformed)
  | .text, .record [] (.broken _ strict _) => .error (.ofFault strict)
  | .text, .misnamed found => .error (wrongKind "variant identifier" found)
  | .text, .absent f => .error (.ofFault f)
  | .text, .brokenText f _ => .error (.ofFault f)
  | .text, _ => .error (.ofFault .malformed)

/-! ### Records -/

/-- A declared member of a record. -/
structure Member where
  name : String
  required : Bool
  check : Decoder Unit

/-- Declares a member that must be given. -/
def required {α : Type} (name : String) (decode : Decoder α) : Member :=
  ⟨name, true, fun src d => (fun _ => ()) <$> decode src d⟩

/-- Declares a member that has a default. -/
def defaulted {α : Type} (name : String) (decode : Decoder α) : Member :=
  ⟨name, false, fun src d => (fun _ => ()) <$> decode src d⟩

/-- A record type: its name and its members in declared order. -/
structure Shape where
  name : String
  members : List Member

/-- The drafts given for members, by name. -/
abbrev Parts := List (String × Draft)

def part? (name : String) : Parts → Option Draft
  | [] => none
  | (n, d) :: rest => if n = name then some d else part? name rest

/-- Walks the named members: each known one is decoded, each unknown one skipped. -/
def namedParts (shape : Shape) (src : Source) :
    List String → List (Spelling × Draft) → Except Failure Parts
  | _, [] => .ok []
  | seen, (name, d) :: rest => do
    let n ← orFault name
    match shape.members.find? (·.name == n) with
    | none => do
      orFault d.skip
      namedParts shape src seen rest
    | some m =>
      if n ∈ seen then .error (.ofMismatch (.repeatedMember n))
      else do
        (m.check src d).mapError (Failure.within (.member n))
        let parts ← namedParts shape src (n :: seen) rest
        return (n, d) :: parts

/-- Walks the items given in place of named members. -/
def placedParts (src : Source) : Nat → List Member → List Draft → Except Failure Parts
  | _, [], _ => .ok []
  | _, _, [] => .ok []
  | i, m :: ms, d :: ds => do
    (m.check src d).mapError (Failure.within (.item i))
    let parts ← placedParts src (i + 1) ms ds
    return (m.name, d) :: parts

/-- Whether more follows the last item that a record type has room for. -/
def hasSurplus (size : Nat) (ds : List Draft) : Ending → Bool
  | .broken true _ _ => decide (size ≤ ds.length)
  | _ => decide (size < ds.length)

/-- The drafts of a record's members, all of them decodable and none of the required ones absent. -/
def parts (shape : Shape) : Source → Draft → Except Failure Parts := fun src d =>
  match d with
  | .record ms ending => do
    let given ← namedParts shape src [] ms
    orFault (Draft.closing ending)
    match shape.members.find? (fun m => m.required && (part? m.name given).isNone) with
    | some m => .error (.ofMismatch (.missingMember m.name))
    | none => return given
  | .misnamed _ => .error (.ofFault .malformed)
  | .list ds ending => do
    let size := shape.members.length
    let given ← placedParts src 0 shape.members ds
    if hasSurplus size ds ending then
      match src with
      | .text => .error (.ofFault .malformed)
      | .value => .error (.ofMismatch (.tooManyItems ds.length))
    else do
      orFault (Draft.closing ending)
      match (shape.members.drop ds.length).find? (·.required) with
      | some _ => .error (.ofMismatch (.tooFewItems ds.length shape.name size))
      | none => return given
  | d => .error (wrongKind ("struct " ++ shape.name) d)

/-- The value of a required member. -/
def get {α : Type} (given : Parts) (name : String) (decode : Decoder α) (src : Source) :
    Except Failure α :=
  match part? name given with
  | some d => decode src d
  | none => .error (.ofMismatch (.missingMember name))

/-- The value of a member that has a default. -/
def getD {α : Type} (given : Parts) (name : String) (decode : Decoder α) (default : α)
    (src : Source) : Except Failure α :=
  match part? name given with
  | some d => decode src d
  | none => .ok default

end Decode

/-- Decodes a whole text. Whatever follows the value must be blank, unless it may be ignored. -/
def decodeText {α : Type} (decode : Decoder α) (s : String) : Except Failure α := do
  let (d, clean) := readDraft s
  let x ← decode .text d
  if clean then return x else .error (.ofFault .malformed)

/-- Decodes the value at the start of a text, whatever follows it. -/
def decodeLeading {α : Type} (decode : Decoder α) (s : String) : Except Failure α :=
  decode .text (readDraft s).1

/-- Decodes a value. -/
def decodeValue {α : Type} (decode : Decoder α) (v : Json) : Except Failure α :=
  decode .value (Draft.ofJson v)

end Rollup.Json
