import ApiModel.Json.Token
import ApiModel.Value.Entries

/-!
# Reading JSON

The tokens of a text are taken one by one by a machine whose state is the stack of arrays and
objects that are open and what may come next. A member that is repeated keeps its first place and
takes its last value. Arrays and objects may be open within each other up to a depth of `maxDepth`.
`read` gives the value of a whole text or the complaint about it, with the place of the fault.

* `run_append`: taking tokens in two parts is taking them at once.
-/

namespace ApiModel.Json

/-! ## The machine -/

/-- An array or object that is open, with what it holds so far (an array's items last first). -/
inductive Frame where
  /-- An open array. -/
  | items (done : List Value)
  /-- An open object, and the name of the member whose value is to come. -/
  | members (done : Entries) (name : String)

/-- What may come next. -/
inductive Next where
  /-- A value. -/
  | value
  /-- A value or the end of an array that is empty so far. -/
  | firstItem
  /-- A name or the end of an object that is empty so far. -/
  | firstName
  /-- A name. -/
  | name
  /-- A colon. -/
  | colon
  /-- A comma, or the end of the array or object. -/
  | comma
  /-- Nothing: the value is complete. -/
  | nothing (result : Value)

/-- The state between two tokens. -/
structure State where
  /-- The open arrays and objects, the innermost first. -/
  stack : List Frame
  /-- What may come next. -/
  next : Next

/-- Why a text has no value. -/
inductive Refusal where
  /-- The text is not JSON: the complaint and the place of the fault. -/
  | malformed (problem : Problem) (place : Nat)
  /-- A whole number has too many digits. -/
  | tooLong
  /-- Too many arrays and objects are open within each other. -/
  | tooDeep
  deriving DecidableEq, Repr

/-- The state at the start. -/
def State.start : State := ⟨[], .value⟩

/-- The state after a value is complete. -/
def State.complete (stack : List Frame) (v : Value) : State :=
  match stack with
  | [] => ⟨[], .nothing v⟩
  | .items done :: rest => ⟨.items (v :: done) :: rest, .comma⟩
  | .members done name :: rest => ⟨.members (Entries.put done (.text name) v) name :: rest, .comma⟩

/-- The complaint when something else comes than may come. -/
def Next.problem : Next → Problem
  | .value | .firstItem => .expectingValue
  | .firstName | .name => .expectingName
  | .colon => .expectingColon
  | .comma => .expectingComma
  | .nothing _ => .extraData

/-- The number of arrays and objects that may be open within each other. -/
def maxDepth : Nat := 985

/-- The state after an array or object is opened. -/
def State.enter (s : State) (frame : Frame) (next : Next) : Except Refusal State :=
  if s.stack.length < maxDepth then .ok ⟨frame :: s.stack, next⟩ else .error .tooDeep

/-- The state after a token where a value may begin. -/
def State.beginValue (s : State) (t : Placed) : Except Refusal State :=
  match t.token with
  | .openObject => s.enter (.members [] "") .firstName
  | .openArray => s.enter (.items []) .firstItem
  | .text text => .ok (.complete s.stack (.text text))
  | .scalar v => .ok (.complete s.stack (.scalar v))
  | .tooLong => .error .tooLong
  | .broken p offset => .error (.malformed p (t.start + offset))
  | _ => .error (.malformed .expectingValue t.start)

/-- The state after a token where a name may stand. -/
def State.beginMember (s : State) (t : Placed) : Except Refusal State :=
  match t.token, s.stack with
  | .text name, .members done _ :: rest => .ok ⟨.members done name :: rest, .colon⟩
  | .broken p offset, _ => .error (.malformed p (t.start + offset))
  | _, _ => .error (.malformed .expectingName t.start)

/-- The state after a token. -/
def State.step (s : State) (t : Placed) : Except Refusal State :=
  match s.next, t.token, s.stack with
  | .value, _, _ => s.beginValue t
  | .firstItem, .closeArray, .items done :: rest => .ok (.complete rest (.list done.reverse))
  | .firstItem, _, _ => s.beginValue t
  | .firstName, .closeObject, .members done _ :: rest => .ok (.complete rest (.map done))
  | .firstName, _, _ => s.beginMember t
  | .name, _, _ => s.beginMember t
  | .colon, .colon, _ => .ok ⟨s.stack, .value⟩
  | .comma, .comma, .items _ :: _ => .ok ⟨s.stack, .value⟩
  | .comma, .comma, .members _ _ :: _ => .ok ⟨s.stack, .name⟩
  | .comma, .closeArray, .items done :: rest => .ok (.complete rest (.list done.reverse))
  | .comma, .closeObject, .members done _ :: rest => .ok (.complete rest (.map done))
  | next, _, _ => .error (.malformed next.problem t.start)

/-- The state after several tokens. -/
def State.run (s : State) : List Placed → Except Refusal State
  | [] => .ok s
  | t :: ts => do
    let s' ← s.step t
    s'.run ts

theorem State.run_append (s : State) (ts us : List Placed) :
    s.run (ts ++ us) = s.run ts >>= fun s' => s'.run us := by
  induction ts generalizing s with
  | nil => rfl
  | cons t ts ih =>
    simp only [List.cons_append, State.run, bind, Except.bind]
    cases s.step t with
    | error _ => rfl
    | ok s' => exact ih s'

/-! ## Whole texts -/

/-- The value of a text. -/
def readChars (cs : List Char) : Except Refusal Value :=
  match cs with
  | '\ufeff' :: _ => .error (.malformed .byteOrderMark 0)
  | _ => do
    let s ← State.start.run (tokens cs)
    match s.next with
    | .nothing v => .ok v
    | next => .error (.malformed next.problem cs.length)

/-- The value of a text. -/
def read (s : String) : Except Refusal Value := readChars s.toList

/-- A place in a text in words: its line and column from one, and the characters before it. -/
def placeText (s : String) (place : Nat) : String :=
  let before := s.toList.take place
  let line := before.count '\n' + 1
  let column := (before.reverse.takeWhile (· != '\n')).length + 1
  "line " ++ toString line ++ " column " ++ toString column ++ " (char " ++ toString place ++ ")"

/-- A complaint about a text with the place of the fault. -/
def complaint (s : String) (problem : Problem) (place : Nat) : String :=
  problem.message ++ ": " ++ placeText s place

end ApiModel.Json
