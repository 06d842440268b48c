import CharLexer.Log.Logger
import CharLexer.Proofs.TokenJson

/-!
# Events are read back from JSON

The line of JSON of an event is parsed to one object (`Log.event_of_json`). What is attached to the
event stands in a member of its own, so that no key of the context, repeated or named like a member,
touches the others; of values attached under one key the last one counts. Which members there are
depends on the table of codes, on the location and on whether anything is attached
(`Log.Event.ToldBy`). Whatever the texts are, the line is one: all controls below the space are
escaped (`Json.Value.Plain.noControl_compact`).
-/
namespace CharLexer

open Json (Value)

namespace Json

/-- Whether a text has no control below the space, and so no line break. -/
def NoControl (text : String) : Prop := ∀ c ∈ text.toList, 0x20 ≤ c.toNat

/-- Texts that are joined have no control when neither has one. -/
theorem noControl_append {first second : String} :
    NoControl (first ++ second) ↔ NoControl first ∧ NoControl second := by
  unfold NoControl
  rw [String.toList_append, List.forall_mem_append]

/-- A character at the end must be no control. -/
theorem noControl_push {text : String} {c : Char} :
    NoControl (text.push c) ↔ NoControl text ∧ 0x20 ≤ c.toNat := by
  unfold NoControl
  rw [String.toList_push, List.forall_mem_append, List.forall_mem_singleton]

/-- What is written of a character in a string is no control. -/
theorem noControl_escapedChar (c : Char) : NoControl (escapedChar c) := by
  have digits : ∀ code < 0x20, 0x20 ≤ (hexDigit (code / 16)).toNat ∧
      0x20 ≤ (hexDigit (code % 16)).toNat := by
    decide
  unfold escapedChar
  split
  -- The characters that are escaped by a letter.
  iterate 7 simp [NoControl]
  next =>
    by_cases control : c.toNat < 0x20
    · have both := digits c.toNat control
      rw [if_pos control, noControl_append]
      exact ⟨by simp [NoControl], by simpa [NoControl] using both⟩
    · rw [if_neg control]
      simpa [NoControl] using control

/-- What is written of a string has no control. -/
theorem noControl_writeString {written : String} (before : NoControl written) (text : String) :
    NoControl (writeString written text) := by
  have inner : ∀ c ∈ escaped text, 0x20 ≤ c.toNat := by
    intro c member
    obtain ⟨source, -, stands⟩ := List.mem_flatMap.mp member
    exact noControl_escapedChar source c stands
  unfold NoControl
  rw [toList_writeString, List.forall_mem_append, List.forall_mem_cons, List.forall_mem_append]
  exact ⟨before, by decide, inner, by simp⟩

/-- The digits of an integer and its sign are no controls. -/
theorem noControl_toString (number : Int) : NoControl (toString number) := by
  have digits (count : Nat) : NoControl (Nat.repr count) := by
    intro c member
    rw [Nat.toList_repr] at member
    have digit := Nat.isDigit_of_mem_toDigits (by decide) (by decide) member
    have bound : 48 ≤ c.toNat := (Char.isDigit_iff_toNat.mp digit).1
    omega
  cases number with
  | ofNat count => exact digits count
  | negSucc count =>
    change NoControl ("-" ++ Nat.repr (count + 1))
    exact noControl_append.mpr ⟨by simp [NoControl], digits _⟩

namespace Value

/-- A value that is written on one line without a control. -/
def Uncontrolled (value : Value) : Prop :=
  ∀ level written, NoControl written → NoControl (write .compact level written value)

/-- The later elements of an array are written without a control when each is. -/
theorem noControl_writeElements {elements : List Value}
    (each : ∀ element ∈ elements, element.Uncontrolled) (level : Nat) {written : String}
    (before : NoControl written) : NoControl (writeElements .compact level written elements) := by
  induction elements generalizing written with
  | nil => exact before
  | cons element elements ih =>
    obtain ⟨first, rest⟩ := List.forall_mem_cons.mp each
    have separated : NoControl (written.push ',' ++ "") :=
      noControl_append.mpr ⟨noControl_push.mpr ⟨before, by decide⟩, by simp [NoControl]⟩
    exact ih rest (first level _ separated)

/-- A key is written without a control. -/
theorem noControl_key {written : String} (before : NoControl written) (key : String) :
    NoControl (writeString written key ++ ":") :=
  noControl_append.mpr ⟨noControl_writeString before key, by simp [NoControl]⟩

/-- The later members of an object are written without a control when each value is. -/
theorem noControl_writeMembers {members : List (String × Value)}
    (each : ∀ member ∈ members, member.2.Uncontrolled) (level : Nat) {written : String}
    (before : NoControl written) : NoControl (writeMembers .compact level written members) := by
  induction members generalizing written with
  | nil => exact before
  | cons member members ih =>
    obtain ⟨first, rest⟩ := List.forall_mem_cons.mp each
    have separated : NoControl (written.push ',' ++ "") :=
      noControl_append.mpr ⟨noControl_push.mpr ⟨before, by decide⟩, by simp [NoControl]⟩
    exact ih rest (first level _ (noControl_key separated member.1))

/-- Brackets are written around what has no control. -/
theorem noControl_closed {inner : String} (filled : NoControl inner) {c : Char}
    (visible : 0x20 ≤ c.toNat) : NoControl ((inner ++ "").push c) := by
  have unbroken : NoControl (inner ++ "") := noControl_append.mpr ⟨filled, by simp [NoControl]⟩
  exact noControl_push.mpr ⟨unbroken, visible⟩

/-- Elements that are written without a control make such an array. -/
theorem Uncontrolled.array {elements : List Value}
    (each : ∀ element ∈ elements, element.Uncontrolled) : (array elements).Uncontrolled := by
  intro level written before
  cases elements with
  | nil => exact noControl_append.mpr ⟨before, by simp [NoControl]⟩
  | cons first later =>
    obtain ⟨here, rest⟩ := List.forall_mem_cons.mp each
    have opened : NoControl (written.push '[' ++ "") :=
      noControl_append.mpr ⟨noControl_push.mpr ⟨before, by decide⟩, by simp [NoControl]⟩
    have filled := noControl_writeElements rest (level + 1) (here (level + 1) _ opened)
    exact noControl_closed filled (by decide)

/-- Members whose values are written without a control make such an object. -/
theorem Uncontrolled.object {members : List (String × Value)}
    (each : ∀ member ∈ members, member.2.Uncontrolled) : (object members).Uncontrolled := by
  intro level written before
  cases members with
  | nil => exact noControl_append.mpr ⟨before, by simp [NoControl]⟩
  | cons first later =>
    obtain ⟨here, rest⟩ := List.forall_mem_cons.mp each
    have opened : NoControl (written.push '\x7b' ++ "") :=
      noControl_append.mpr ⟨noControl_push.mpr ⟨before, by decide⟩, by simp [NoControl]⟩
    have keyed := noControl_key opened first.1
    have filled := noControl_writeMembers rest (level + 1) (here (level + 1) _ keyed)
    exact noControl_closed filled (by decide)

/-- A plain value is written without a control. -/
theorem Plain.uncontrolled {value : Value} (plain : value.Plain) : value.Uncontrolled := by
  induction plain with
  | null => exact fun _ _ before => noControl_append.mpr ⟨before, by simp [NoControl]⟩
  | boolean value =>
    cases value <;> exact fun _ _ before => noControl_append.mpr ⟨before, by simp [NoControl]⟩
  | integer number =>
    exact fun _ _ before => noControl_append.mpr ⟨before, noControl_toString number⟩
  | string text => exact fun _ _ before => noControl_writeString before text
  | array _ each => exact .array each
  | object _ each => exact .object each

/-- The compact text of a plain value has no control. -/
theorem Plain.noControl_compact {value : Value} (plain : value.Plain) : NoControl value.compact :=
  plain.uncontrolled 0 "" (List.forall_mem_nil _)

end Value

end Json

namespace Log

namespace Event

/-- The members of an event as they are listed, before they are sorted. -/
def members (event : Event) (moment : Timestamp) : List (String × Value) :=
  [("timestamp", .string moment.dateTime), ("level", .string event.level.name),
    ("code", .string event.code.text), ("message", .string event.message)] ++
    event.entryMembers ++ event.locationMembers ++ event.contextMembers

/-- The names of the members that an event may have. -/
def memberNames : List String :=
  ["timestamp", "level", "code", "message", "category", "severity", "location", "context"]

/-- A pair that is attached, as a member. -/
def attachment (pair : String × String) : String × Value := (pair.1, .string pair.2)

/-- What is attached to an event, as members of the context. -/
def attached (event : Event) : List (String × Value) := event.context.map attachment

/-- Members tell of an event: its level, code and message as they are; the category and the severity
that the table lists for its code, if it does; its place, if it has one; and what is attached to it, if
anything is. Each name stands once. -/
structure ToldBy (event : Event) (moment : Timestamp) (members : List (String × Value)) :
    Prop where
  ascending : (members.map (·.1)).Pairwise (· < ·)
  named : ∀ name ∈ members.map (·.1), name ∈ memberNames
  timestamp : (Value.object members).member? "timestamp" = some (.string moment.dateTime)
  level : (Value.object members).member? "level" = some (.string event.level.name)
  code : (Value.object members).member? "code" = some (.string event.code.text)
  message : (Value.object members).member? "message" = some (.string event.message)
  category : ∀ found, (Value.object members).member? "category" = some found ↔
    ∃ entry, (event.code, entry) ∈ Code.table ∧ found = .string entry.category.name
  severity : ∀ found, (Value.object members).member? "severity" = some found ↔
    ∃ entry, (event.code, entry) ∈ Code.table ∧ found = .string entry.severity.name
  location : (Value.object members).member? "location" = event.location.map fun place =>
    .object [("column", .ofNat place.column), ("line", .ofNat place.line),
      ("offset", .ofNat place.offset)]
  bare : (Value.object members).member? "context" = none ↔ event.context = []
  context : ∀ found, (Value.object members).member? "context" = some found →
    ∃ pairs, found = .object pairs ∧ (pairs.map (·.1)).Pairwise (· < ·) ∧
      (∀ key, key ∈ pairs.map (·.1) ↔ key ∈ event.context.map (·.1)) ∧
      ∀ key value, (key, value) ∈ pairs ↔
        ∃ before text after, event.context = before ++ (key, text) :: after ∧
          (∀ later ∈ after, later.1 ≠ key) ∧ value = .string text

variable (event : Event) (moment : Timestamp)

/-- The object of an event has its members in order of their keys. -/
theorem toJson_eq_sorted : event.toJson moment = .sorted (event.members moment) := rfl

/-- The value of each name among the members of an event. -/
theorem member?_members :
    let json := Value.object (event.members moment)
    json.member? "timestamp" = some (.string moment.dateTime) ∧
    json.member? "level" = some (.string event.level.name) ∧
    json.member? "code" = some (.string event.code.text) ∧
    json.member? "message" = some (.string event.message) ∧
    json.member? "category" =
      (event.code.entry?.map fun entry => .string entry.category.name) ∧
    json.member? "severity" =
      (event.code.entry?.map fun entry => .string entry.severity.name) ∧
    json.member? "location" = (event.location.map fun place => place.toJson .sorted) ∧
    json.member? "context" =
      if event.context.isEmpty then none else some (.sorted event.attached) := by
  intro json
  unfold json members entryMembers locationMembers contextMembers
  cases event.code.entry? <;> cases event.location <;> cases event.context.isEmpty <;>
    exact ⟨rfl, rfl, rfl, rfl, rfl, rfl, rfl, rfl⟩

/-- The members of an event are among those that an event may have. -/
theorem names_sublist : ((event.members moment).map (·.1)).Sublist memberNames := by
  unfold members entryMembers locationMembers contextMembers
  cases event.code.entry? <;> cases event.location <;> cases event.context.isEmpty <;>
    exact List.isSublist_iff_sublist.mp rfl

/-- The value of a key among what is attached is the text attached last under the key. -/
theorem member?_attached {key : String} {value : Value} :
    (Value.object event.attached).member? key = some value ↔
      ∃ before text after, event.context = before ++ (key, text) :: after ∧
        (∀ later ∈ after, later.1 ≠ key) ∧ value = .string text := by
  rw [Value.member?_eq_some, attached]
  constructor
  · rintro ⟨_, _, split, absent⟩
    obtain ⟨before, _, order, rfl, behind⟩ := List.map_eq_append_iff.mp split
    obtain ⟨⟨_, text⟩, after, rfl, ⟨⟩, rfl⟩ := List.map_eq_cons_iff.mp behind
    exact ⟨before, text, after, order, fun later member =>
      absent _ (List.mem_map_of_mem member), rfl⟩
  · rintro ⟨before, text, after, order, absent, rfl⟩
    refine ⟨before.map attachment, after.map attachment, ?_, fun later member => ?_⟩
    · rw [order, List.map_append, List.map_cons]
      rfl
    · obtain ⟨pair, listed, rfl⟩ := List.mem_map.mp member
      exact absent pair listed

/-- What is attached is an object of texts. -/
theorem plain_attached : (Value.sorted event.attached).Plain :=
  .sorted (List.forall_mem_map.mpr fun pair _ => .string pair.2)

/-- An event is made of integers and strings. -/
theorem plain_toJson : (event.toJson moment).Plain := by
  rw [toJson_eq_sorted]
  refine .sorted (List.forall_mem_append.mpr ⟨List.forall_mem_append.mpr
    ⟨List.forall_mem_append.mpr ⟨?_, ?_⟩, ?_⟩, ?_⟩)
  · simp only [List.forall_mem_cons]
    exact ⟨.string _, .string _, .string _, .string _, List.forall_mem_nil _⟩
  · unfold entryMembers
    cases event.code.entry? with
    | none => exact List.forall_mem_nil _
    | some entry =>
      exact List.forall_mem_cons.mpr ⟨.string _, List.forall_mem_singleton.mpr (.string _)⟩
  · unfold locationMembers
    cases event.location with
    | none => exact List.forall_mem_nil _
    | some place => exact List.forall_mem_singleton.mpr place.plain_toJson
  · unfold contextMembers
    cases event.context.isEmpty with
    | true => exact List.forall_mem_nil _
    | false => exact List.forall_mem_singleton.mpr event.plain_attached

/-- The members of an event, in order of their keys, tell of it. -/
theorem toldBy_sorted :
    event.ToldBy moment (Std.TreeMap.ofList (event.members moment)).toList := by
  have value (key : String) := Value.member?_sorted (event.members moment) key
  obtain ⟨timestamp, level, code, message, category, severity, location, context⟩ :=
    event.member?_members moment
  constructor
  case ascending => exact Json.ordered_sorted _
  case named =>
    intro name member
    exact (event.names_sublist moment).subset (Json.mem_keys_sorted.mp member)
  case timestamp => exact (value _).trans timestamp
  case level => exact (value _).trans level
  case code => exact (value _).trans code
  case message => exact (value _).trans message
  case category =>
    intro found
    have held := (value "category").trans category
    rw [Value.sorted] at held
    rw [held, Option.map_eq_some_iff]
    exact exists_congr fun entry => and_congr Code.entry?_eq_some eq_comm
  case severity =>
    intro found
    have held := (value "severity").trans severity
    rw [Value.sorted] at held
    rw [held, Option.map_eq_some_iff]
    exact exists_congr fun entry => and_congr Code.entry?_eq_some eq_comm
  case location => exact (value _).trans location
  case bare =>
    have held := (value "context").trans context
    rw [Value.sorted] at held
    rw [held, ← List.isEmpty_iff]
    cases event.context.isEmpty <;> simp
  case context =>
    intro found stands
    have held := (value "context").trans context
    rw [Value.sorted, stands] at held
    cases bare : event.context.isEmpty with
    | true =>
      rw [bare] at held
      contradiction
    | false =>
      rw [bare] at held
      obtain rfl := Option.some.inj held
      refine ⟨_, rfl, Json.ordered_sorted _, fun key => ?_, fun key text => ?_⟩
      · rw [Json.mem_keys_sorted, attached, List.map_map]
        rfl
      · rw [Json.mem_sorted, member?_attached]

end Event

/-- The line that is written of an event as JSON is one line, and is parsed to one object, whose
members tell of the event. The level is known by its name. -/
theorem event_of_json (event : Event) (moment : Timestamp) :
    let line := Sink.structured.line moment event
    (∀ c ∈ line.toList, c ≠ '\n' ∧ c ≠ '\r') ∧
      (∃ members, Json.parse line = some (.object members) ∧ event.ToldBy moment members) ∧
      Level.ofName? event.level.name = some event.level := by
  intro line
  have plain := event.plain_toJson moment
  refine ⟨fun c member => ?_, ⟨_, plain.parse_text (.inl rfl), event.toldBy_sorted moment⟩, ?_⟩
  · have visible : 0x20 ≤ c.toNat := plain.noControl_compact c member
    constructor
    · rintro rfl
      exact absurd visible (by decide)
    · rintro rfl
      exact absurd visible (by decide)
  · cases event.level <;> rfl

end Log

end CharLexer
