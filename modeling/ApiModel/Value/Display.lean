import ApiModel.Text.Integer
import ApiModel.Text.Quoted
import ApiModel.Value.Basic

/-!
# Values in messages

Two written forms of a value. `Value.shown` is the form in which a value is quoted inside a message
or inside another value: text between marks, lists in brackets, maps in braces. `Value.said` is the
form in which a value is spoken of by itself: text as it is, days and timestamps by their digits,
everything else as it is shown. A list or map inside itself is shown by three points.

Whole numbers with more than `Text.maxDigits` digits are not written down, so a value that holds
one has no written form: `Value.isSayable` says which values have one.

* `Value.said_text`: a text is said as it is.
* `Value.isSayable_list_iff`: a list has a written form exactly when all its items have one.
-/

namespace ApiModel

/-- Parts with commas between them. -/
def commaList (parts : List String) : String := ", ".intercalate parts

/-! ## Scalars -/

/-- A length of time given in minutes, as whole days and the seconds beyond them. -/
def shownMinutes (minutes : Int) : String :=
  let days := minutes.fdiv 1440
  let seconds := (minutes - days * 1440) * 60
  "datetime.timedelta("
    ++ commaList ((if days = 0 then [] else ["days=" ++ toString days])
      ++ (if seconds = 0 then [] else ["seconds=" ++ toString seconds]))
    ++ ")"

/-- A timestamp as it is shown, without the parts that are zero at the end of its time. -/
def Timestamp.shown (t : Timestamp) : String :=
  let base := [t.date.year, t.date.month, t.date.day, t.hour, t.minute]
  let numbers :=
    if t.micros ≠ 0 then base ++ [t.second, t.micros]
    else if t.second ≠ 0 then base ++ [t.second]
    else base
  let zone := match t.offset with
    | none => []
    | some o =>
      ["tzinfo=" ++ (if o = 0 then "datetime.timezone.utc"
        else "datetime.timezone(" ++ shownMinutes o ++ ")")]
  "datetime.datetime(" ++ commaList (numbers.map toString ++ zone) ++ ")"

/-- A scalar as it is quoted inside a message. -/
def Scalar.shown : Scalar → String
  | .null => "None"
  | .bool b => if b then "True" else "False"
  | .int n => toString n
  | .float x => Decimal.text Decimal.plain x
  | .text s => Text.quote s
  | .bytes bs => Text.quoteBytes bs
  | .date d =>
    "datetime.date(" ++ commaList ([d.year, d.month, d.day].map toString) ++ ")"
  | .timestamp t => t.shown

/-- A scalar as it is spoken of by itself. -/
def Scalar.said : Scalar → String
  | .text s => s
  | .date d => d.iso
  | .timestamp t => t.isoWith " "
  | s => s.shown

/-- Whether a scalar has a written form. -/
def Scalar.isSayable : Scalar → Bool
  | .int n => n.natAbs < Nat.pow 10 Text.maxDigits
  | _ => true

/-! ## Values -/

namespace Value

mutual

/-- A value as it is quoted inside a message. -/
def shown : Value → String
  | .scalar s => s.shown
  | .list items => "[" ++ commaList (shownItems items) ++ "]"
  | .pair a b => "(" ++ a.shown ++ ", " ++ b.shown ++ ")"
  | .map entries => "\x7b" ++ commaList (shownEntries entries) ++ "\x7d"
  | .set [] => "set()"
  | .set (m :: ms) => "\x7b" ++ commaList ((m :: ms).map Scalar.shown) ++ "\x7d"
  | .enclosing isMap _ => if isMap then "\x7b...\x7d" else "[...]"

/-- The items of a list as they are shown. -/
def shownItems : List Value → List String
  | [] => []
  | v :: vs => v.shown :: shownItems vs

/-- The entries of a map as they are shown: the key, a colon and the value. -/
def shownEntries : Entries → List String
  | [] => []
  | (k, v) :: es => (k.shown ++ ": " ++ v.shown) :: shownEntries es

end

/-- A value as it is spoken of by itself. -/
def said : Value → String
  | .scalar s => s.said
  | v => v.shown

theorem said_text (s : String) : (Value.text s).said = s := rfl

mutual

/-- Whether a value has a written form. -/
def isSayable : Value → Bool
  | .scalar s => s.isSayable
  | .list items => areSayable items
  | .pair a b => a.isSayable && b.isSayable
  | .map entries => entriesSayable entries
  | .set ms => ms.all Scalar.isSayable
  | .enclosing _ _ => true

/-- Whether all values have a written form. -/
def areSayable : List Value → Bool
  | [] => true
  | v :: vs => v.isSayable && areSayable vs

/-- Whether the keys and values of all entries have a written form. -/
def entriesSayable : Entries → Bool
  | [] => true
  | (k, v) :: es => k.isSayable && v.isSayable && entriesSayable es

end

theorem isSayable_list_iff {items : List Value} :
    (Value.list items).isSayable = true ↔ ∀ v ∈ items, v.isSayable = true := by
  rw [isSayable]
  induction items with
  | nil => exact ⟨nofun, fun _ => rfl⟩
  | cons v vs ih =>
    rw [areSayable, Bool.and_eq_true, ih, List.forall_mem_cons]

end Value

end ApiModel
