import Mathlib.Data.FinEnum
import Simble.Octets

/-! A keyboard and the two hosts that read its reports (`devices/keyboard.rs`,
`devices/helpers/hid_reports.rs`, `device/hid_host.rs`, `device/classic_hid.rs`). -/
namespace Simble.Hid
open List

/-! ## Characters -/

/-- `US_PUNCTUATION`: a key, what it is for and what it is for with Shift. -/
def usPunctuation : List (UInt8 × Char × Char) :=
  [(0x2D, '-', '_'), (0x2E, '=', '+'), (0x2F, '[', Char.ofNat 0x7B), (0x30, ']', Char.ofNat 0x7D),
    (0x31, Char.ofNat 0x5C, '|'), (0x33, ';', ':'), (0x34, Char.ofNat 0x27, Char.ofNat 0x22),
    (0x35, Char.ofNat 0x60, '~'), (0x36, ',', '<'), (0x37, '.', '>'), (0x38, '/', '?')]

def usShiftedDigits : List Char := ['!', '@', '#', '$', '%', '^', '&', '*', '(', ')']

def shiftHeld (modifiers : UInt8) : Bool := modifiers &&& 0x22 ≠ 0

/-- The modifiers and the key of a character. -/
def asciiToHid (c : Char) : Option (UInt8 × UInt8) :=
  let place (first : Char) : UInt8 := UInt8.ofNat (c.toNat - first.toNat)
  if 'a' ≤ c ∧ c ≤ 'z' then some (0x00, 0x04 + place 'a')
  else if 'A' ≤ c ∧ c ≤ 'Z' then some (0x02, 0x04 + place 'A')
  else if '1' ≤ c ∧ c ≤ '9' then some (0x00, 0x1E + place '1')
  else if c = '0' then some (0x00, 0x27)
  else if c = ' ' then some (0x00, 0x2C)
  else if c = '\n' ∨ c = '\r' then some (0x00, 0x28)
  else if c = '\t' then some (0x00, 0x2B)
  else (usPunctuation.findSome? fun (usage, plain, shifted) =>
    if c = plain then some (0x00, usage) else if c = shifted then some (0x02, usage) else none).or
      ((usShiftedDigits.idxOf? c).map fun index =>
        (0x02, if index = 9 then 0x27 else 0x1E + UInt8.ofNat index))

def hidToAscii (usage modifiers : UInt8) : Option Char :=
  let shifted := shiftHeld modifiers
  let behind (first : Char) (key : UInt8) : Char := Char.ofNat (first.toNat + (usage - key).toNat)
  if 0x04 ≤ usage ∧ usage ≤ 0x1D then some (behind (if shifted then 'A' else 'a') 0x04)
  else if 0x1E ≤ usage ∧ usage ≤ 0x26 then
    some (if shifted then usShiftedDigits.getD (usage - 0x1E).toNat '!' else behind '1' 0x1E)
  else if usage = 0x27 then some (if shifted then ')' else '0')
  else if usage = 0x2C then some ' '
  else if usage = 0x28 then some '\n'
  else if usage = 0x2B then some '\t'
  else (usPunctuation.find? (·.1 = usage)).map fun (_, plain, shift) =>
    if shifted then shift else plain

def usageLabel (usage : UInt8) : Option String :=
  lookup usage [(0x28, "Enter"), (0x29, "Esc"), (0x2A, "Backspace"), (0x2B, "Tab"), (0x2C, "Space"),
    (0x39, "Caps Lock"), (0x4F, "Right"), (0x50, "Left"), (0x51, "Down"), (0x52, "Up"),
    (0xE0, "Left Ctrl"), (0xE1, "Left Shift"), (0xE2, "Left Alt"), (0xE3, "Left Meta"),
    (0xE4, "Right Ctrl"), (0xE5, "Right Shift"), (0xE6, "Right Alt"), (0xE7, "Right Meta")]

/-! ## Reports -/

structure KeyboardReport where
  modifiers : UInt8
  keys : Bytes

namespace KeyboardReport

def default : KeyboardReport := ⟨0, replicate 6 0⟩

def parse : Bytes → Option KeyboardReport
  | [modifiers, _, k₁, k₂, k₃, k₄, k₅, k₆] => some ⟨modifiers, [k₁, k₂, k₃, k₄, k₅, k₆]⟩
  | _ => none

variable (report previous : KeyboardReport)

def isRolloverError : Bool := report.keys.all (· = 0x01)

def newlyPressed : Bytes := report.keys.filter fun key => 0x03 < key ∧ key ∉ previous.keys

def released : Bytes := previous.keys.filter fun key => 0x03 < key ∧ key ∉ report.keys

end KeyboardReport

inductive HidEvent where
  | keyDown (usage modifiers : UInt8) (character : Option Char) (label : Option String)
  | keyUp (usage : UInt8)
  | rollOver

structure HidHost where
  previousKeys : Map UInt16 KeyboardReport
  events : List HidEvent

def edges (previous report : KeyboardReport) : List HidEvent :=
  (report.released previous).map .keyUp ++ (report.newlyPressed previous).map fun usage =>
    .keyDown usage report.modifiers (hidToAscii usage report.modifiers) (usageLabel usage)

def HidHost.decodeKeyboard (host : HidHost) (valueHandle : UInt16) (value : Bytes) : HidHost :=
  match KeyboardReport.parse value with
  | none => host
  | some report =>
    if report.isRolloverError then { host with events := host.events ++ [.rollOver] } else
    let previous := (host.previousKeys.lookup valueHandle).getD .default
    ⟨host.previousKeys.insert valueHandle report, host.events ++ edges previous report⟩

/-- `typed_usages`, of what was received on the interrupt channel. -/
def typedUsages (previous : KeyboardReport) : List KeyboardReport → Bytes
  | [] => []
  | report :: rest => report.newlyPressed previous ++ typedUsages report rest

/-- What `send_report` writes and notifies. -/
def sendReport (modifiers : UInt8) (keycodes : Bytes) : Bytes :=
  modifiers :: 0 :: takeD 6 keycodes 0

def typeText (text : String) : List Bytes := text.toList.flatMap fun c =>
  match asciiToHid c with
  | none => []
  | some (modifiers, key) => [sendReport modifiers [key], sendReport 0 []]

/-! ## What a host should make of them -/

def decoded (handle : UInt16) (values : List Bytes) : List HidEvent :=
  (values.foldl (HidHost.decodeKeyboard · handle) ⟨∅, []⟩).events

def HidEvent.edge (usage : UInt8) : HidEvent → Option Bool
  | .keyDown key .. => if key = usage then some true else none
  | .keyUp key => if key = usage then some false else none
  | .rollOver => none

def HidEvent.isEdge : HidEvent → Bool
  | .rollOver => false
  | _ => true

def HidEvent.down : HidEvent → Option (UInt8 × Option Char)
  | .keyDown usage _ character _ => some (usage, character)
  | _ => none

def Alternates : Bool → List Bool → Prop
  | _, [] => True
  | next, edge :: rest => edge = next ∧ Alternates (!next) rest

structure Proper (handle : UInt16) (values : List Bytes) : Prop where
  alternates : ∀ usage, Alternates true ((decoded handle values).filterMap (HidEvent.edge usage))
  down : ∀ front value report, front ++ [value] <+: values →
    KeyboardReport.parse value = some report → report.isRolloverError = false → ∀ usage,
      ((decoded handle (front ++ [value])).filterMap (HidEvent.edge usage)).getLast? = some true ↔
        0x03 < usage ∧ usage ∈ report.keys
  rollovers : (decoded handle values).filter (·.isEdge) = decoded handle (values.filter fun value =>
    ¬ (KeyboardReport.parse value).any (·.isRolloverError))
  typed : ((decoded handle values).filterMap (·.down)).map Prod.fst =
    typedUsages .default (values.filterMap KeyboardReport.parse)

/-- No key is listed twice by one of two successive reports and not at all by the other, and
none is held before and after a rollover. -/
def Plain : KeyboardReport → Bool → List KeyboardReport → Prop
  | _, _, [] => True
  | previous, rolled, report :: rest =>
    if report.isRolloverError then Plain previous true rest else
    (∀ usage > 0x03, (usage ∉ previous.keys → report.keys.count usage ≤ 1) ∧
      (usage ∉ report.keys → previous.keys.count usage ≤ 1) ∧
      (rolled → usage ∈ previous.keys → usage ∉ report.keys)) ∧ Plain report false rest

/-! ## Edges -/

def trace (previous : KeyboardReport) : List KeyboardReport → List HidEvent
  | [] => []
  | report :: rest =>
    if report.isRolloverError then .rollOver :: trace previous rest
    else edges previous report ++ trace report rest

theorem decodeKeyboard_events (handle : UInt16) (values : List Bytes) (host : HidHost) :
    (values.foldl (HidHost.decodeKeyboard · handle) host).events = host.events ++
      trace ((host.previousKeys.lookup handle).getD .default)
        (values.filterMap KeyboardReport.parse) := by
  induction values generalizing host with
  | nil => exact (append_nil _).symm
  | cons value rest ih =>
    rw [foldl_cons, ih, filterMap_cons]
    unfold HidHost.decodeKeyboard
    cases KeyboardReport.parse value with
    | none => rfl
    | some report =>
      dsimp only
      rw [trace]
      split
      · simp
      · simp

theorem decoded_eq (handle : UInt16) (values : List Bytes) :
    decoded handle values = trace .default (values.filterMap KeyboardReport.parse) :=
  decodeKeyboard_events handle values ⟨∅, []⟩

namespace KeyboardReport
variable {report previous : KeyboardReport} {usage : UInt8}

/-- A key that is held. -/
def holds (report : KeyboardReport) (usage : UInt8) : Bool := 0x03 < usage ∧ usage ∈ report.keys

theorem count_newlyPressed : (report.newlyPressed previous).count usage =
    if 0x03 < usage ∧ usage ∉ previous.keys then report.keys.count usage else 0 := by
  unfold newlyPressed
  split
  case isTrue fresh => exact count_filter (decide_eq_true fresh)
  case isFalse stale =>
    exact count_eq_zero.mpr fun inside => stale (of_decide_eq_true (mem_filter.mp inside).2)

theorem rollover_keys (rollover : report.isRolloverError = true) {key : UInt8}
    (inside : key ∈ report.keys) : key = 0x01 :=
  of_decide_eq_true (all_eq_true.mp rollover key inside)

theorem newlyPressed_rollover (rollover : report.isRolloverError = true) :
    report.newlyPressed previous = [] := by
  refine filter_eq_nil_iff.mpr fun key inside => ?_
  rw [rollover_keys rollover inside]
  simp

theorem newlyPressed_behind (rollover : previous.isRolloverError = true) :
    report.newlyPressed previous = report.keys.filter (0x03 < ·) := by
  refine filter_congr fun key _ => decide_eq_decide.mpr (and_iff_left_of_imp fun proper inside => ?_)
  rw [rollover_keys rollover inside] at proper
  exact absurd proper (by decide)

theorem newlyPressed_eq_behind {before : KeyboardReport} (rollover : before.isRolloverError = true) :
    report.newlyPressed previous = report.newlyPressed before ↔
      ∀ usage > 0x03, usage ∈ previous.keys → usage ∉ report.keys := by
  rw [newlyPressed_behind rollover]
  constructor
  · intro same usage proper held now
    have fresh : usage ∈ report.newlyPressed previous := by
      rw [same]
      exact mem_filter.mpr ⟨now, decide_eq_true proper⟩
    exact (of_decide_eq_true (mem_filter.mp fresh).2).2 held
  · intro apart
    refine filter_congr fun key inside => decide_eq_decide.mpr (and_iff_left_of_imp ?_)
    exact fun proper held => apart key proper held inside

end KeyboardReport

theorem edges_edge (usage : UInt8) (previous report : KeyboardReport) :
    (edges previous report).filterMap (HidEvent.edge usage) =
      replicate (if 0x03 < usage ∧ usage ∉ report.keys then previous.keys.count usage else 0) false ++
        replicate (if 0x03 < usage ∧ usage ∉ previous.keys then report.keys.count usage else 0)
          true := by
  have constant {keys : Bytes} {event : UInt8 → HidEvent} {value : Bool}
      (edge : ∀ key, (event key).edge usage = if key = usage then some value else none) :
      (keys.map event).filterMap (HidEvent.edge usage) = replicate (keys.count usage) value := by
    induction keys with
    | nil => rfl
    | cons key rest ih => by_cases same : key = usage <;> simp [edge, same, ih, replicate_succ]
  unfold edges
  rw [filterMap_append, constant fun _ => rfl, constant fun _ => rfl,
    KeyboardReport.count_newlyPressed, show report.released previous = previous.newlyPressed report
      from rfl, KeyboardReport.count_newlyPressed]

theorem edges_down (previous report : KeyboardReport) :
    ((edges previous report).filterMap (·.down)).map Prod.fst = report.newlyPressed previous := by
  have up (keys : Bytes) : (keys.map HidEvent.keyUp).filterMap (·.down) = [] := by
    induction keys with
    | nil => rfl
    | cons key rest ih => exact ih
  unfold edges
  rw [filterMap_append, up, nil_append, filterMap_map, map_filterMap]
  exact filterMap_some

theorem alternates_replicate {next : Bool} {n : Nat} (some' : n ≠ 0) {rest : List Bool} :
    Alternates next (replicate n next ++ rest) ↔ n ≤ 1 ∧ Alternates (!next) rest := by
  match n with
  | 1 => simp [Alternates]
  | n + 2 => simp [Alternates, replicate_succ]

theorem alternates_edges (previous report : KeyboardReport) (usage : UInt8) (rest : List Bool) :
    Alternates (!previous.holds usage)
        ((edges previous report).filterMap (HidEvent.edge usage) ++ rest) ↔
      (0x03 < usage → (usage ∉ previous.keys → report.keys.count usage ≤ 1) ∧
        (usage ∉ report.keys → previous.keys.count usage ≤ 1)) ∧
      Alternates (!report.holds usage) rest := by
  rw [edges_edge, append_assoc]
  unfold KeyboardReport.holds
  by_cases proper : 0x03 < usage
  on_goal 2 => simp [proper]
  have positive (keys : Bytes) : usage ∈ keys ↔ keys.count usage ≠ 0 := by
    rw [← Nat.pos_iff_ne_zero, count_pos_iff]
  by_cases before : usage ∈ previous.keys <;> by_cases now : usage ∈ report.keys
  · simp [proper, before, now]
  · simp [proper, before, now, alternates_replicate ((positive _).mp before), count_eq_zero.mpr now]
  · simp [proper, before, now, alternates_replicate ((positive _).mp now)]
  · simp [proper, before, now, count_eq_zero.mpr]

theorem append_inj_of_sublist {α : Type} {a b c d : List α} (first : a <+ c) (second : b <+ d) :
    a ++ b = c ++ d ↔ a = c ∧ b = d := by
  refine ⟨fun same => ?_, fun ⟨left, right⟩ => left ▸ right ▸ rfl⟩
  have sizes := congrArg length same
  rw [length_append, length_append] at sizes
  have := first.length_le
  have := second.length_le
  exact ⟨first.eq_of_length (by omega), second.eq_of_length (by omega)⟩

theorem newlyPressed_sublist {previous before : KeyboardReport} (report : KeyboardReport)
    (behind : before = previous ∨ before.isRolloverError = true) :
    report.newlyPressed previous <+ report.newlyPressed before := by
  obtain rfl | rollover := behind
  · exact .refl _
  · rw [KeyboardReport.newlyPressed_behind rollover]
    refine monotone_filter_right _ fun key fresh => decide_eq_true ?_
    exact (of_decide_eq_true fresh).1

theorem sublist_typed (previous before : KeyboardReport) (reports : List KeyboardReport)
    (behind : before = previous ∨ before.isRolloverError = true) :
    ((trace previous reports).filterMap (·.down)).map Prod.fst <+ typedUsages before reports := by
  induction reports generalizing previous before with
  | nil => exact .slnil
  | cons report rest ih =>
    unfold trace typedUsages
    split
    case isTrue rollover =>
      rw [KeyboardReport.newlyPressed_rollover rollover, nil_append]
      exact ih previous report (.inr rollover)
    case isFalse real =>
      rw [filterMap_append, map_append, edges_down]
      exact .append (newlyPressed_sublist report behind) (ih report report (.inl rfl))

theorem plain_iff (reports : List KeyboardReport) (previous before : KeyboardReport) (rolled : Bool)
    (behind : if rolled then before.isRolloverError = true else before = previous) :
    Plain previous rolled reports ↔
      (∀ usage, Alternates (!previous.holds usage)
        ((trace previous reports).filterMap (HidEvent.edge usage))) ∧
      ((trace previous reports).filterMap (·.down)).map Prod.fst = typedUsages before reports := by
  induction reports generalizing previous before rolled with
  | nil => simp [Plain, trace, typedUsages, Alternates]
  | cons report rest ih =>
    unfold Plain trace typedUsages
    split
    case isTrue rollover =>
      rw [KeyboardReport.newlyPressed_rollover rollover, nil_append]
      exact ih previous report true rollover
    case isFalse real =>
      have typed : report.newlyPressed previous = report.newlyPressed before ↔
          (rolled → ∀ usage > 0x03, usage ∈ previous.keys → usage ∉ report.keys) := by
        cases rolled with
        | false =>
          obtain rfl := behind
          simp
        | true =>
          rw [imp_iff_right rfl]
          exact KeyboardReport.newlyPressed_eq_behind behind
      have behind : before = previous ∨ before.isRolloverError = true := by
        cases rolled
        · exact .inl behind
        · exact .inr behind
      rw [ih report report false rfl]
      simp only [filterMap_append, map_append, edges_down, alternates_edges,
        append_inj_of_sublist (newlyPressed_sublist report behind)
          (sublist_typed report report rest (.inl rfl)), typed]
      constructor
      · rintro ⟨once, alternates, same⟩
        refine ⟨fun usage => ⟨fun proper => ?_, alternates usage⟩, ?_, same⟩
        · exact ⟨(once usage proper).1, (once usage proper).2.1⟩
        · exact fun rolled usage proper => (once usage proper).2.2 rolled
      · rintro ⟨once, apart, same⟩
        refine ⟨fun usage proper => ?_, fun usage => (once usage).2, same⟩
        obtain ⟨pressed, released⟩ := (once usage).1 proper
        exact ⟨pressed, released, fun rolled => apart rolled usage proper⟩

/-! ## Held keys, rollovers and text -/

/-- The last report that is no rollover. -/
def latest (previous : KeyboardReport) (reports : List KeyboardReport) : KeyboardReport :=
  reports.foldl (fun previous report => if report.isRolloverError then previous else report) previous

theorem getLast?_edges (previous report : KeyboardReport) (usage : UInt8) :
    ((edges previous report).filterMap (HidEvent.edge usage)).getLast?.getD (previous.holds usage) =
      report.holds usage := by
  rw [edges_edge]
  unfold KeyboardReport.holds
  by_cases proper : 0x03 < usage
  on_goal 2 => simp [proper]
  by_cases before : usage ∈ previous.keys <;> by_cases now : usage ∈ report.keys <;>
    simp [proper, before, now, getLast?_replicate, count_eq_zero]

theorem getLast?_trace (previous : KeyboardReport) (reports : List KeyboardReport) (usage : UInt8) :
    ((trace previous reports).filterMap (HidEvent.edge usage)).getLast?.getD (previous.holds usage) =
      (latest previous reports).holds usage := by
  induction reports generalizing previous with
  | nil => rfl
  | cons report rest ih =>
    unfold trace latest
    rw [foldl_cons]
    split
    case isTrue => exact ih previous
    case isFalse =>
      have behind := ih report
      rw [← getLast?_edges previous report usage] at behind
      rw [filterMap_append, getLast?_append, ← latest, ← behind]
      cases ((trace report rest).filterMap (HidEvent.edge usage)).getLast? <;> rfl

theorem edges_isEdge (previous report : KeyboardReport) :
    (edges previous report).filter (·.isEdge) = edges previous report := by
  refine filter_eq_self.mpr fun event inside => ?_
  obtain inside | inside := mem_append.mp inside
  · obtain ⟨_, _, rfl⟩ := mem_map.mp inside
    rfl
  · obtain ⟨_, _, rfl⟩ := mem_map.mp inside
    rfl

theorem trace_filter (previous : KeyboardReport) (reports : List KeyboardReport) :
    (trace previous reports).filter (·.isEdge) =
      trace previous (reports.filter (¬ ·.isRolloverError)) := by
  induction reports generalizing previous with
  | nil => rfl
  | cons report rest ih =>
    rw [trace, filter_cons]
    by_cases rollover : report.isRolloverError
    · rw [if_pos rollover, if_neg (by simp [rollover]), ← ih]
      rfl
    · rw [if_neg rollover, if_pos (by simp [rollover]), filter_append, edges_isEdge, ih, trace,
        if_neg rollover]

theorem asciiToHid_ascii {c : Char} (supported : (asciiToHid c).isSome) : c.toNat < 128 := by
  by_contra outside
  have above (d : Char) (small : d.toNat < 128) : c ≠ d ∧ ¬ c ≤ d := by
    refine ⟨fun same => ?_, fun below => ?_⟩
    · exact outside (same ▸ small)
    · exact outside (Nat.lt_of_le_of_lt (Char.le_def.mp below) small)
  have punctuation : ∀ entry ∈ usPunctuation, c ≠ entry.2.1 ∧ c ≠ entry.2.2 := by
    intro entry inside
    have small : ∀ entry ∈ usPunctuation, entry.2.1.toNat < 128 ∧ entry.2.2.toNat < 128 := by
      simp [usPunctuation]
    exact ⟨(above _ (small entry inside).1).1, (above _ (small entry inside).2).1⟩
  have digits : c ∉ usShiftedDigits := by
    intro inside
    have small : ∀ digit ∈ usShiftedDigits, digit.toNat < 128 := by simp [usShiftedDigits]
    exact outside (small c inside)
  have none' : asciiToHid c = none := by
    unfold asciiToHid
    simp only [(above 'z' (by decide)).2, (above 'Z' (by decide)).2, (above '9' (by decide)).2,
      (above '0' (by decide)).1, (above ' ' (by decide)).1, (above '\n' (by decide)).1,
      (above '\r' (by decide)).1, (above '\t' (by decide)).1, and_false, or_self, if_false]
    rw [findSome?_eq_none_iff.mpr, idxOf?_eq_none_iff.mpr digits]
    · rfl
    · intro entry inside
      simp [punctuation entry inside]
  rw [none'] at supported
  exact Bool.noConfusion supported

theorem asciiToHid_spelled {c : Char} {modifiers key : UInt8}
    (stroke : asciiToHid c = some (modifiers, key)) :
    0x03 < key ∧ hidToAscii key modifiers = some (if c = '\r' then '\n' else c) := by
  have all : ∀ code < 128, (asciiToHid (Char.ofNat code)).all fun stroke =>
      0x03 < stroke.2 ∧ hidToAscii stroke.2 stroke.1 =
        some (if Char.ofNat code = '\r' then '\n' else Char.ofNat code) := by
    decide +kernel
  have spelled := all c.toNat (asciiToHid_ascii (Option.isSome_of_mem stroke))
  rw [Char.ofNat_toNat, stroke] at spelled
  exact of_decide_eq_true spelled

theorem ne_zero {key : UInt8} (proper : 0x03 < key) : key ≠ 0 := fun same =>
  absurd (same ▸ proper) (by decide)

theorem trace_stroke (modifiers : UInt8) {key : UInt8} (proper : 0x03 < key)
    (reports : List KeyboardReport) :
    (trace .default (⟨modifiers, [key, 0, 0, 0, 0, 0]⟩ :: .default :: reports)).filterMap (·.down) =
      (key, hidToAscii key modifiers) :: (trace .default reports).filterMap (·.down) := by
  have pressed : edges .default ⟨modifiers, [key, 0, 0, 0, 0, 0]⟩ =
      [.keyDown key modifiers (hidToAscii key modifiers) (usageLabel key)] := by
    simp [edges, KeyboardReport.released, KeyboardReport.newlyPressed, KeyboardReport.default, proper,
      ne_zero proper]
  have released : edges ⟨modifiers, [key, 0, 0, 0, 0, 0]⟩ .default = [.keyUp key] := by
    simp [edges, KeyboardReport.released, KeyboardReport.newlyPressed, KeyboardReport.default, proper,
      ne_zero proper]
  rw [trace, if_neg (by simp [KeyboardReport.isRolloverError]), trace,
    if_neg (by simp [KeyboardReport.isRolloverError, KeyboardReport.default]), pressed, released]
  rfl

theorem typeText_spelled (text : List Char) (supported : ∀ c ∈ text, (asciiToHid c).isSome) :
    ((trace .default ((typeText (.ofList text)).filterMap KeyboardReport.parse)).filterMap
      (·.down)).map Prod.snd = text.map fun c => some (if c = '\r' then '\n' else c) := by
  induction text with
  | nil => rfl
  | cons c rest ih =>
    obtain ⟨⟨modifiers, key⟩, stroke⟩ := Option.isSome_iff_exists.mp (supported c (.head _))
    obtain ⟨proper, spelled⟩ := asciiToHid_spelled stroke
    have reports : (typeText (.ofList (c :: rest))).filterMap KeyboardReport.parse =
        ⟨modifiers, [key, 0, 0, 0, 0, 0]⟩ :: .default ::
          (typeText (.ofList rest)).filterMap KeyboardReport.parse := by
      unfold typeText
      rw [String.toList_ofList, String.toList_ofList, flatMap_cons, stroke]
      rfl
    rw [reports, trace_stroke modifiers proper, map_cons, spelled,
      ih fun c inside => supported c (.tail _ inside)]
    rfl

theorem latest_append (previous : KeyboardReport) (front : List KeyboardReport)
    {report : KeyboardReport} (real : report.isRolloverError = false) :
    latest previous (front ++ [report]) = report := by
  unfold latest
  rw [foldl_append]
  exact if_neg (Bool.eq_false_iff.mp real)

/-- **Keyboard edges.** -/
theorem keyboard_iff (handle : UInt16) :
    (∀ text : String, (∀ c ∈ text.toList, (asciiToHid c).isSome) →
      ((decoded handle (typeText text)).filterMap (·.down)).map Prod.snd =
        text.toList.map fun c => some (if c = '\r' then '\n' else c)) ∧
    ∀ values, Proper handle values ↔
      Plain .default false (values.filterMap KeyboardReport.parse) := by
  refine ⟨fun text supported => ?_, fun values => ?_⟩
  · have spelled := typeText_spelled text.toList supported
    rw [String.ofList_toList] at spelled
    rw [decoded_eq]
    exact spelled
  rw [plain_iff _ .default .default false rfl]
  have rested (usage : UInt8) : KeyboardReport.default.holds usage = false := by
    simp +contextual [KeyboardReport.holds, KeyboardReport.default, ne_zero]
  simp only [rested, Bool.not_false, ← decoded_eq handle values]
  constructor
  · exact fun proper => ⟨proper.alternates, proper.typed⟩
  · rintro ⟨alternates, typed⟩
    refine ⟨alternates, ?_, ?_, typed⟩
    · intro front value report _ read real usage
      have last := getLast?_trace .default ((front ++ [value]).filterMap KeyboardReport.parse) usage
      rw [← decoded_eq handle, rested, filterMap_append, filterMap_cons_some read,
        filterMap_nil, latest_append _ _ real] at last
      rw [← decide_eq_true_iff (p := 0x03 < usage ∧ usage ∈ report.keys), ← KeyboardReport.holds,
        ← last]
      cases ((decoded handle (front ++ [value])).filterMap (HidEvent.edge usage)).getLast? <;> simp
    · rw [decoded_eq, decoded_eq, trace_filter, filter_filterMap, filterMap_filter]
      congr 1
      refine filterMap_congr fun value _ => ?_
      cases KeyboardReport.parse value <;> simp [Option.filter]

theorem keyboard_rolls :
    ((decoded 0 (typeText "Hi")).filterMap (·.down)).map Prod.snd = [some 'H', some 'i'] ∧
      Proper 0 [[0, 0, 4, 0, 0, 0, 0, 0], [0, 0, 4, 5, 0, 0, 0, 0], [0, 0, 5, 0, 0, 0, 0, 0]] := by
  refine ⟨(keyboard_iff 0).1 "Hi" (forall_mem_cons.mpr ⟨rfl, forall_mem_singleton.mpr rfl⟩),
    ((keyboard_iff 0).2 _).mpr ⟨?_, ?_, ?_, trivial⟩⟩
  · decide +kernel
  · decide +kernel
  · decide +kernel

/-- A key in two slots goes down twice. -/
theorem two_slots : ¬ Proper 0 [[0, 0, 4, 4, 0, 0, 0, 0]] := by
  intro proper
  have events : (decoded 0 [[0, 0, 4, 4, 0, 0, 0, 0]]).filterMap (HidEvent.edge 4) = [true, true] := by
    decide
  have twice := proper.alternates 4
  rw [events] at twice
  exact Bool.noConfusion twice.2.1

end Simble.Hid
