import AuthzClient.Json.Scanner

/-!
Typed readers of JSON texts, put together from small ones. A reader consumes a value of its own form from the front of
the text and reports the first problem from left to right: JSON of another form is told apart from bytes that are no
JSON and from a text that ends early. `read` asks for one value and nothing behind it.
-/

namespace AuthzClient.Json

/-- A reader. `fuel` bounds the pieces that are read one after the other, `room` the depth of nesting that is left. -/
abbrev Decoder (α : Type) := (fuel room : Nat) → List UInt8 → Scanned α

namespace Decoder

variable {α β σ : Type}

/-- The value behind white space is of another form; what it begins with is still read as far as it has to be. -/
def reject (bs : List UInt8) : Scanned α :=
  match skipSpace bs with
  | [] => .error .truncated
  | b :: rest =>
    if b == 0x6e then .error (failed (expect nullTail rest))
    else if b == 0x74 then .error (failed (expect trueTail rest))
    else if b == 0x66 then .error (failed (expect falseTail rest))
    else if b == 0x2d then .error (failed ((readNumber true rest).map (·.2)))
    else if isDigitByte b then .error (failed ((readNumber false (b :: rest)).map (·.2)))
    else if b == 0x22 then .error (failed ((readText rest).map (·.2)))
    else if b == 0x5b || b == 0x7b then .error .mismatch
    else .error .malformed
where
  /-- The problem of a piece, and if it has none, that it is there at all. -/
  failed (piece : Except Fault (List UInt8)) : Fault :=
    match piece with
    | .error fault => fault
    | .ok _ => .mismatch

/-- A reader whose results are judged and changed afterwards. -/
def check (d : Decoder α) (f : α → Option β) : Decoder β := fun fuel room bs =>
  match d fuel room bs with
  | .error fault => .error fault
  | .ok (a, rest) =>
    match f a with
    | some b => .ok (b, rest)
    | none => .error .mismatch

def text : Decoder String := fun _ _ bs =>
  match skipSpace bs with
  | b :: rest => if b == 0x22 then readText rest else reject (b :: rest)
  | [] => .error .truncated

def integer (least most : Int) : Decoder Int := fun _ _ bs =>
  let judge (scanned : Scanned Number) : Scanned Int :=
    match scanned with
    | .error fault => .error fault
    | .ok (.whole n, rest) => if least ≤ n ∧ n ≤ most then .ok (n, rest) else .error .mismatch
    | .ok (.real _, _) => .error .mismatch
  match skipSpace bs with
  | b :: rest =>
    if b == 0x2d then judge (readNumber true rest)
    else if isDigitByte b then judge (readNumber false (b :: rest))
    else reject (b :: rest)
  | [] => .error .truncated

def nullable (d : Decoder α) : Decoder (Option α) := fun fuel room bs =>
  match skipSpace bs with
  | b :: rest =>
    if b == 0x6e then
      match expect nullTail rest with
      | .error fault => .error fault
      | .ok rest => .ok (none, rest)
    else
      match d fuel room (b :: rest) with
      | .error fault => .error fault
      | .ok (a, rest) => .ok (some a, rest)
  | [] => .error .truncated

/-- Items with commas between them up to the closing bracket; `seen` holds the ones read so far, last one first. -/
def items (item : List UInt8 → Scanned α) : Nat → List α → List UInt8 → Scanned (List α)
  | 0, _, _ => .error .truncated
  | fuel + 1, seen, bs =>
    match item bs with
    | .error fault => .error fault
    | .ok (a, rest) =>
      match skipSpace rest with
      | [] => .error .truncated
      | c :: rest =>
        if c == 0x5d then .ok ((a :: seen).reverse, rest)
        else if c != 0x2c then .error .malformed
        else
          match skipSpace rest with
          | [] => .error .truncated
          | d :: rest => if d == 0x5d then .error .malformed else items item fuel (a :: seen) (d :: rest)

/-- The name of a member at the front of the text and the colon behind it. -/
def memberName (bs : List UInt8) : Scanned String :=
  match bs with
  | [] => .error .truncated
  | b :: rest =>
    if b != 0x22 then .error .malformed
    else
      match readText rest with
      | .error fault => .error fault
      | .ok (name, rest) => .ok (name, rest)

def colon (bs : List UInt8) : Except Fault (List UInt8) :=
  match skipSpace bs with
  | [] => .error .truncated
  | c :: rest => if c == 0x3a then .ok rest else .error .malformed

/-- Members with commas between them up to the closing brace. `step` takes the name of a member, what was gathered
so far and the text behind the name. -/
def members (step : String → σ → List UInt8 → Scanned σ) : Nat → σ → List UInt8 → Scanned σ
  | 0, _, _ => .error .truncated
  | fuel + 1, gathered, bs =>
    match memberName bs with
    | .error fault => .error fault
    | .ok (name, rest) =>
      match step name gathered rest with
      | .error fault => .error fault
      | .ok (gathered, rest) =>
        match skipSpace rest with
        | [] => .error .truncated
        | c :: rest =>
          if c == 0x7d then .ok (gathered, rest)
          else if c != 0x2c then .error .malformed
          else
            match skipSpace rest with
            | [] => .error .truncated
            | d :: rest => members step fuel gathered (d :: rest)

/-- Any value, nested at most `room - 1` deep. -/
def value (fuel : Nat) : Nat → List UInt8 → Scanned Json
  | room, bs =>
    match skipSpace bs with
    | [] => .error .truncated
    | b :: rest =>
      if b == 0x6e then (expect nullTail rest).map fun rest => (.null, rest)
      else if b == 0x74 then (expect trueTail rest).map fun rest => (.bool true, rest)
      else if b == 0x66 then (expect falseTail rest).map fun rest => (.bool false, rest)
      else if b == 0x2d then (readNumber true rest).map fun (n, rest) => (.number n, rest)
      else if isDigitByte b then (readNumber false (b :: rest)).map fun (n, rest) => (.number n, rest)
      else if b == 0x22 then (readText rest).map fun (s, rest) => (.text s, rest)
      else if b == 0x5b then
        match room with
        | 0 => .error .malformed
        | 1 => .error .malformed
        | room + 1 =>
          match skipSpace rest with
          | [] => .error .truncated
          | c :: more =>
            if c == 0x5d then .ok (.array [], more)
            else (items (value fuel room) fuel [] (c :: more)).map fun (found, rest) => (.array found, rest)
      else if b == 0x7b then
        match room with
        | 0 => .error .malformed
        | 1 => .error .malformed
        | room + 1 =>
          match skipSpace rest with
          | [] => .error .truncated
          | c :: more =>
            if c == 0x7d then .ok (.object [], more)
            else
              let step (name : String) (gathered : Entries Json) (rest : List UInt8) : Scanned (Entries Json) :=
                match colon rest with
                | .error fault => .error fault
                | .ok rest =>
                  match value fuel room rest with
                  | .error fault => .error fault
                  | .ok (v, rest) => .ok (Entries.put name v gathered, rest)
              (members step fuel [] (c :: more)).map fun (found, rest) => (.object found, rest)
      else .error .malformed

def any : Decoder Json := value

/-- One field of a record form: how its value is taken into what was gathered, and what becomes of the record when
the field is absent from an object or from the end of an array. -/
structure Field (σ : Type) where
  name : String
  take : σ → Decoder σ
  absent : σ → Option σ
  short : σ → Option σ

def Field.required (name : String) (d : Decoder α) (store : α → σ → σ) : Field σ where
  name := name
  take gathered fuel room bs := (d fuel room bs).map fun (a, rest) => (store a gathered, rest)
  absent _ := none
  short _ := none

/-- A field that may be left out of an object, but not of an array, and may be null. -/
def Field.optional (name : String) (d : Decoder α) (store : Option α → σ → σ) : Field σ where
  name := name
  take gathered fuel room bs := (nullable d fuel room bs).map fun (a, rest) => (store a gathered, rest)
  absent gathered := some (store none gathered)
  short _ := none

/-- A field that keeps what is gathered already when it is left out. -/
def Field.defaulted (name : String) (d : Decoder α) (store : α → σ → σ) : Field σ where
  name := name
  take gathered fuel room bs := (d fuel room bs).map fun (a, rest) => (store a gathered, rest)
  absent gathered := some gathered
  short gathered := some gathered

/-- The fields of an array form, in order. `first` says that no item has been read yet. -/
def positional (fuel room : Nat) : List (Field σ) → Bool → σ → List UInt8 → Scanned σ
  | [], _, gathered, bs =>
    match skipSpace bs with
    | [] => .error .truncated
    | c :: rest =>
      if c == 0x5d then .ok (gathered, rest) else .error .malformed
  | field :: fields, first, gathered, bs =>
    match skipSpace bs with
    | [] => .error .truncated
    | c :: rest =>
      if c == 0x5d then
        match field.short gathered with
        | none => .error .mismatch
        | some gathered => positional fuel room fields first gathered (c :: rest)
      else if first then
        match field.take gathered fuel room (c :: rest) with
        | .error fault => .error fault
        | .ok (gathered, rest) => positional fuel room fields false gathered rest
      else if c != 0x2c then .error .malformed
      else
        match skipSpace rest with
        | [] => .error .truncated
        | d :: rest =>
          if d == 0x5d then .error .malformed
          else
            match field.take gathered fuel room (d :: rest) with
            | .error fault => .error fault
            | .ok (gathered, rest) => positional fuel room fields false gathered rest

/-- What becomes of a record when the fields that were not seen are absent. -/
def settle (fields : List (Field σ)) (seen : List String) (gathered : σ) : Option σ :=
  match fields with
  | [] => some gathered
  | field :: rest =>
    if seen.contains field.name then settle rest seen gathered
    else (field.absent gathered).bind (settle rest seen)

/-- One member of a record in object form: a known field is taken once, any other member is passed over. -/
def recordStep (fields : List (Field σ)) (fuel room : Nat) (name : String) (state : List String × σ)
    (bs : List UInt8) : Scanned (List String × σ) :=
  let (seen, gathered) := state
  match fields.find? (·.name == name) with
  | none =>
    match colon bs with
    | .error fault => .error fault
    | .ok rest => (skipValue fuel [] false rest).map fun rest => ((seen, gathered), rest)
  | some field =>
    if seen.contains name then .error .mismatch
    else
      match colon bs with
      | .error fault => .error fault
      | .ok rest => (field.take gathered fuel room rest).map fun (gathered, rest) => ((name :: seen, gathered), rest)

/-- A record: an object with the given fields, or an array of their values in order. -/
def record (fields : List (Field σ)) (empty : σ) : Decoder σ := fun fuel room bs =>
  match skipSpace bs with
  | [] => .error .truncated
  | b :: rest =>
    if b == 0x7b then
      match room with
      | 0 => .error .malformed
      | 1 => .error .malformed
      | room + 1 =>
        let finish (state : List String × σ) (rest : List UInt8) : Scanned σ :=
          match settle fields state.1 state.2 with
          | some gathered => .ok (gathered, rest)
          | none => .error .mismatch
        match skipSpace rest with
        | [] => .error .truncated
        | c :: more =>
          if c == 0x7d then finish ([], empty) more
          else
            match members (recordStep fields fuel room) fuel ([], empty) (c :: more) with
            | .error fault => .error fault
            | .ok (state, rest) => finish state rest
    else if b == 0x5b then
      match room with
      | 0 => .error .malformed
      | 1 => .error .malformed
      | room + 1 => positional fuel room fields true empty rest
    else reject (b :: rest)

/-- How deep values may be nested, plus one. -/
def depthLimit : Nat := 128

/-- Reads one value from a whole text; only white space may stand behind it. -/
def read (d : Decoder α) (bs : List UInt8) : Except Fault α :=
  match d (2 * bs.length + 4) depthLimit bs with
  | .error fault => .error fault
  | .ok (a, rest) => if (skipSpace rest).isEmpty then .ok a else .error .malformed

end Decoder

def parse (bs : List UInt8) : Except Fault Json := Decoder.any.read bs

end AuthzClient.Json
