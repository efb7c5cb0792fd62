import Soundalike.File.Rules
import Soundalike.Proofs.LowerLetters
import Soundalike.Proofs.QuotedText
import Soundalike.Proofs.RuleCharacters

set_option autoImplicit false

/-!
# What the records tell

Every record of a name is about one of its steps and tells of live branches (`of_mem_ofName`), and
the last one counts at least as many as the name has codes (`length_run_le_of_getLast?_ofName`).
The records of names are details: rules that are loaded leave none at their level
(`level_ne_trace_of_loadEncoder`).

The wording of a record of a name begins with the name in quotes, so the name can be read off,
whatever characters it has (`name_eq_of_message_eq`), and over the rules of a source it is a single
line (`newline_not_mem_message`).
-/

namespace Soundalike

/-! ## Steps and live branches -/

namespace Log

variable {encoder : Encoder} {choice : Choice} {name : Text}

/-- Records of names are details, and tell of live branches; of one only where the first alternative
is followed. -/
theorem of_mem_ofName {event : Event} (h : event ∈ ofName encoder choice name) :
    event.level = .trace ∧ ∃ step ∈ encoder.steps name, ∃ live,
      event = .applied name step live ∧ 0 < live ∧ (choice = .first → live = 1) := by
  obtain ⟨step, hstep, place, rfl⟩ := exists_of_mem_ofName h
  refine ⟨rfl, step, hstep, _, rfl, ?_, ?_⟩
  · exact List.length_pos_iff.mpr (Encoder.liveAfter_ne_nil _ (List.cons_ne_nil _ _))
  · rintro rfl
    exact Encoder.length_liveAfter_first _ _

/-- The last record counts the branches that are live at the end. -/
theorem getLast?_ofName :
    (ofName encoder choice name).getLast? =
      (encoder.steps name).getLast?.map fun step =>
        .applied name step (liveAfter choice (encoder.steps name) [.empty]).length := by
  rw [List.getLast?_eq_getElem?, getElem?_ofName, length_ofName, ← List.getLast?_eq_getElem?]
  cases hlast : (encoder.steps name).getLast? with
  | none => rfl
  | some step =>
    have hpos : 0 < (encoder.steps name).length :=
      List.length_pos_of_mem (List.mem_of_getLast? hlast)
    rw [List.take_of_length_le (by omega)]

/-- The branches that are live at the end become the codes of the name. -/
theorem length_run_le_of_getLast?_ofName {step : Step} {live : Nat}
    (h : (ofName encoder choice name).getLast? = some (.applied name step live)) :
    (encoder.run choice name).length ≤ live := by
  rw [getLast?_ofName, Option.map_eq_some_iff] at h
  obtain ⟨last, -, hrecord⟩ := h
  obtain ⟨-, -, rfl⟩ := Event.applied.inj hrecord
  rw [Encoder.run, distinct]
  exact (distinctBy_sublist id _).length_le.trans_eq (List.length_map _)

/-- Loading rules leaves no record at the level of the records of names. -/
theorem level_ne_trace_of_loadEncoder {reader : File.Reader} {path : Option Text} {folding : Bool}
    {events : List Event} (h : File.loadEncoder reader path folding = .ok (encoder, events)) :
    ∀ event ∈ events, event.level ≠ .trace := by
  obtain ⟨-, ⟨-, -, rfl⟩ | ⟨path, -, -, rfl⟩⟩ := File.loadEncoder_eq_ok_iff.mp h
  · simp [Event.level]
  · simp [Event.level, Event.ofRuleSet]

/-! ## The wording -/

/-- The wording of a record of a name: the name in quotes comes first. -/
theorem toList_message_applied (name : Text) (step : Step) (live : Nat) :
    (Event.applied name step live).message.toList =
      Text.quoted name ++ (" @".toList ++ (toString step.position).toList ++ ": ".toList ++
        step.rule.display ++ " -> ".toList ++ (toString live).toList ++ " branch(es)".toList) := by
  simp only [Event.message_applied, String.toList_append, String.toList_ofList, List.append_assoc]

/-- The name of a record can be read off its wording. -/
theorem name_eq_of_message_eq {first second : Text} {step other : Step} {live count : Nat}
    (h : (Event.applied first step live).message = (Event.applied second other count).message) :
    first = second := by
  have hletters := congrArg String.toList h
  rw [toList_message_applied, toList_message_applied] at hletters
  exact (Text.quoted_append_inj hletters).left

end Log

/-! ## Single lines -/

theorem Letter.newline_not_mem_map_lower {text : Text} (h : '\n' ∉ text) :
    '\n' ∉ text.map lower := by
  intro hmem
  obtain ⟨c, hc, hlower⟩ := List.mem_map.mp hmem
  exact h (eq_of_lower_eq (by decide +kernel) hlower ▸ hc)

/-- A rule is shown on the line on which it is written. -/
theorem Statement.Writes.newline_not_mem_display {line : Text} {rule : Rule}
    (h : Writes line (.rule rule)) : '\n' ∉ rule.display := by
  cases h with
  | rule hsign hfields hbuilt =>
    have hfield : ∀ field ∈ Text.words line, '\n' ∉ unquote field := by
      intro field hfield hmem
      have hsolid := (Text.of_mem_words hfield).2 _ (mem_of_mem_unquote hmem)
      exact absurd hsolid (by decide)
    simp only [hfields, List.forall_mem_cons] at hfield
    obtain ⟨hpattern, hstart, hvowel, helse, -⟩ := hfield
    rw [Rule.display_eq_of_ofFields? hbuilt]
    simp only [List.mem_append, not_or]
    exact ⟨⟨⟨⟨⟨⟨⟨Letter.newline_not_mem_map_lower hpattern, by decide⟩, hstart⟩, by decide⟩,
      hvowel⟩, by decide⟩, helse⟩, by decide⟩

namespace Log

/-- Over the rules of a source, every record of a name is a single line. -/
theorem newline_not_mem_message {source : Text} {encoder : Encoder} {choice : Choice} {name : Text}
    (h : RuleSet.parse source = .ok encoder.rules) {event : Event}
    (hevent : event ∈ ofName encoder choice name) : '\n' ∉ event.message.toList := by
  obtain ⟨-, step, hstep, live, rfl, -⟩ := of_mem_ofName hevent
  have hrule : step.rule ∈ encoder.rules.table.rules := (RuleTable.applies_of_mem_steps hstep).left
  obtain ⟨line, -, hwrites⟩ := (RuleSet.mem_rules_iff_of_parse h).mp hrule
  have hnumber : ∀ number : Nat, '\n' ∉ (toString number).toList :=
    Text.not_mem_toString (by decide)
  rw [toList_message_applied]
  simp only [List.mem_append, not_or]
  exact ⟨Text.newline_not_mem_quoted name, ⟨⟨⟨⟨⟨by decide, hnumber _⟩, by decide⟩,
    hwrites.newline_not_mem_display⟩, by decide⟩, hnumber _⟩, by decide⟩

end Log

end Soundalike
