import ApiModel.Failure

/-!
# Steps that leave a trace

Reading a document notes events on the way: what was dropped, guessed or left out. A `Traced` value
is a result or a failure together with the events up to it; the events of a failed run are kept.

* `Traced.events_bind`, `Traced.result_bind`: a second step adds its events to those of the first,
  and does nothing if the first failed.
-/

namespace ApiModel

/-! ## Events -/

/-- The importance of an event. -/
inductive Level where
  /-- For those who look for a fault. -/
  | debug
  /-- For everyone. -/
  | warning
  deriving DecidableEq, Repr

/-- The number by which importance is compared. -/
def Level.rank : Level → Nat
  | .debug => 10
  | .warning => 30

/-- The name of an importance. -/
def Level.name : Level → String
  | .debug => "DEBUG"
  | .warning => "WARNING"

/-- Something worth noting. -/
inductive Event where
  /-- A document is being read from a source. -/
  | loading (source : String)
  /-- A schema with a format and no type was taken for a number. -/
  | guessedNumber (format : String)
  /-- A part of a composition was dropped, since it is no record. -/
  | droppedBranch (index : Nat) (kind : String)
  /-- Declarations were read from a document of a version. -/
  | declarations (count : Nat) (version : String)
  /-- The body of an operation has no media type that counts as JSON. -/
  | bodyNotJson (operation types : String)
  /-- An operation consumes no media type that counts as JSON. -/
  | consumesNotJson (operation types : String)
  /-- A whole document was read. -/
  | parsed (declarations parameters operations : Nat)
  deriving DecidableEq, Repr

namespace Event

/-- The importance of an event. -/
def level : Event → Level
  | .guessedNumber _ => .warning
  | _ => .debug

/-- The part of the program an event is reported for. -/
def origin : Event → String
  | .loading _ => "specir.parser.loader"
  | .guessedNumber _ | .droppedBranch _ _ => "specir.parser.lowering"
  | _ => "specir.parser.extractor"

/-- The wording of an event. -/
def message : Event → String
  | .loading source => s!"Loading document from {source}"
  | .guessedNumber format =>
    s!"Schema has format {Text.quote format} but no type; treating it as a number"
  | .droppedBranch index kind =>
    s!"Dropping allOf branch {index}: lowered to {kind}, not a record"
  | .declarations count version => s!"Lowered {count} {version} declarations"
  | .bodyNotJson operation types =>
    s!"Operation {operation} has no JSON request body ({types}); body not modelled"
  | .consumesNotJson operation types =>
    s!"Operation {operation} consumes {types}; body not modelled"
  | .parsed d p o => s!"Parsed {d} declarations, {p} shared parameters, {o} operations"

end Event

/-! ## Traced values -/

/-- A result or a failure, with the events up to it. -/
structure Traced (α : Type) where
  /-- What was noted, in order. -/
  events : List Event
  /-- How it ended. -/
  result : Except Failure α

namespace Traced

variable {α β : Type}

/-- A result without events. -/
def ofExcept (r : Except Failure α) : Traced α := ⟨[], r⟩

/-- A failure. -/
def fail (f : Failure) : Traced α := ⟨[], .error f⟩

/-- An event. -/
def note (e : Event) : Traced Unit := ⟨[e], .ok ()⟩

/-- One step and then another that depends on its result. -/
def andThen (x : Traced α) (f : α → Traced β) : Traced β :=
  match x.result with
  | .ok a => ⟨x.events ++ (f a).events, (f a).result⟩
  | .error e => ⟨x.events, .error e⟩

instance : Monad Traced where
  pure a := ⟨[], .ok a⟩
  bind := andThen

instance : MonadLift (Except Failure) Traced := ⟨ofExcept⟩

theorem ext {x y : Traced α} (he : x.events = y.events) (hr : x.result = y.result) : x = y := by
  cases x; cases y; simp_all

theorem pure_def (a : α) : (pure a : Traced α) = ⟨[], .ok a⟩ := rfl

theorem bind_ok {x : Traced α} {a : α} (h : x.result = .ok a) (f : α → Traced β) :
    x >>= f = ⟨x.events ++ (f a).events, (f a).result⟩ := by
  simp [bind, andThen, h]

theorem bind_error {x : Traced α} {e : Failure} (h : x.result = .error e) (f : α → Traced β) :
    x >>= f = ⟨x.events, .error e⟩ := by
  simp [bind, andThen, h]

theorem result_bind (x : Traced α) (f : α → Traced β) :
    (x >>= f).result = x.result >>= fun a => (f a).result := by
  cases h : x.result with
  | ok a => rw [bind_ok h]; rfl
  | error e => rw [bind_error h]; rfl

theorem events_bind (x : Traced α) (f : α → Traced β) :
    (x >>= f).events = x.events ++
      (match x.result with | .ok a => (f a).events | .error _ => []) := by
  cases h : x.result with
  | ok a => rw [bind_ok h]
  | error e => rw [bind_error h]; simp

theorem id_map_eq (x : Traced α) : id <$> x = x := by
  apply ext
  · change (x >>= fun a => pure (id a)).events = x.events
    rw [events_bind]
    cases x.result <;> simp [pure_def]
  · change (x >>= fun a => pure (id a)).result = x.result
    rw [result_bind]
    cases x.result <;> rfl

theorem bind_assoc_eq {γ : Type} (x : Traced α) (f : α → Traced β) (g : β → Traced γ) :
    x >>= f >>= g = x >>= fun a => f a >>= g := by
  apply ext
  · simp only [events_bind, result_bind]
    cases x.result with
    | ok a => cases h : (f a).result <;> simp [h, bind, Except.bind]
    | error e => simp [bind, Except.bind]
  · simp only [result_bind]
    cases x.result <;> rfl

instance : LawfulMonad Traced :=
  LawfulMonad.mk' Traced id_map_eq
    (fun a f => by exact (bind_ok rfl f).trans (by simp [pure_def])) bind_assoc_eq

end Traced

end ApiModel
