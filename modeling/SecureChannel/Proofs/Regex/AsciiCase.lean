import SecureChannel.Proofs.Regex.Search
import SecureChannel.Proofs.Text.Utf8
import SecureChannel.Proofs.Unicode.AsciiCase

/-! Expressions and the case of ASCII letters. Assertions never tell the two cases apart, so it is
only the sets that may. -/
namespace SecureChannel

namespace Assertion

theorem isWord_toLower (unicode : Bool) (c : Char) :
    isWord unicode c.toLower = isWord unicode c := by
  cases unicode with
  | true => simp only [isWord, ↓reduceIte, CharSet.ignoresCase_word.mem_iff (toLower_toLower c)]
  | false =>
    by_cases hc : c.toNat < 128
    · exact of_ascii (P := fun c => isWord false c.toLower = isWord false c) (by decide +kernel) hc
    · rw [(toLower_eq_iff (isAlpha_of_not_ascii (by omega))).mpr rfl]

theorem wordAt_map_toLower (unicode : Bool) (c : Option Char) :
    wordAt unicode (c.map Char.toLower) = wordAt unicode c := by
  cases c with
  | none => rfl
  | some c => exact isWord_toLower unicode c

theorem toLower_beq {c d : Char} (hd : d.isAlpha = false) : (c.toLower == d) = (c == d) := by
  rw [Bool.eq_iff_iff, beq_iff_eq, beq_iff_eq, toLower_eq_iff hd]

/-- Neither a word nor the end of a line depends on case. -/
theorem holds_map_toLower (a : Assertion) (before after : Option Char) :
    a.holds (before.map Char.toLower) (after.map Char.toLower) = a.holds before after := by
  cases a with
  | start | finish => simp [holds]
  | wordBoundary | wordStart | wordEnd | wordStartHalf | wordEndHalf =>
    simp only [holds, wordAt_map_toLower]
  | startLine => cases before <;> simp [holds, toLower_beq]
  | endLine => cases after <;> simp [holds, toLower_beq]
  | startLineCrlf => cases before <;> cases after <;> simp [holds, toLower_beq, bne]
  | endLineCrlf => cases before <;> cases after <;> simp [holds, toLower_beq, bne]

theorem holds_congr {a : Assertion} {before after before' after' : Option Char}
    (hbefore : before'.map Char.toLower = before.map Char.toLower)
    (hafter : after'.map Char.toLower = after.map Char.toLower) :
    a.holds before' after' = a.holds before after := by
  rw [← holds_map_toLower, hbefore, hafter, holds_map_toLower]

end Assertion

namespace Regex

variable {r s : Regex} {before text after before' text' after' : List Char}

section Context

/-- What stands around a text may change case. -/
theorem Matches.congr_context (h : Matches r before text after)
    (hbefore : before'.map Char.toLower = before.map Char.toLower)
    (hafter : after'.map Char.toLower = after.map Char.toLower) :
    Matches r before' text after' := by
  induction h generalizing before' after' with
  | empty => exact .empty
  | assertion h =>
    refine .assertion ((Assertion.holds_congr ?_ ?_).trans h)
    · rw [← List.getLast?_map, hbefore, List.getLast?_map]
    · rw [← List.head?_map, hafter, List.head?_map]
  | chars h => exact .chars h
  | seq _ _ ihr ihs => exact .seq (ihr hbefore (by simp [hafter])) (ihs (by simp [hbefore]) hafter)
  | altLeft _ ih => exact .altLeft (ih hbefore hafter)
  | altRight _ ih => exact .altRight (ih hbefore hafter)
  | timesNone => exact .timesNone
  | timesMore hmax _ _ ihr ihs =>
    exact .timesMore hmax (ihr hbefore (by simp [hafter])) (ihs (by simp [hbefore]) hafter)

theorem Turns.congr_context {n : Nat} (h : Turns r n before text after)
    (hbefore : before'.map Char.toLower = before.map Char.toLower) :
    Turns r n before' text after := by
  induction h generalizing before' with
  | none => exact .none
  | more hr _ ih => exact .more (hr.congr_context hbefore rfl) (ih (by simp [hbefore]))

end Context

section Ignoring

/-- Every set in the expression takes both cases of an ASCII letter or neither. -/
def IgnoresCase : Regex → Prop
  | .chars s => s.IgnoresCase
  | .seq r s | .alt r s => r.IgnoresCase ∧ s.IgnoresCase
  | .times r _ _ => r.IgnoresCase
  | _ => True

/-- Such an expression matches a text in every case it may be written in. -/
theorem IgnoresCase.matches_congr (h : r.IgnoresCase) (hmatch : Matches r before text after)
    (htext : text'.map Char.toLower = text.map Char.toLower) : Matches r before text' after := by
  induction hmatch generalizing text' with
  | empty =>
    obtain rfl := List.map_eq_nil_iff.mp htext
    exact .empty
  | assertion hholds =>
    obtain rfl := List.map_eq_nil_iff.mp htext
    exact .assertion hholds
  | chars hc =>
    obtain ⟨d, rfl, hd⟩ := List.map_eq_singleton_iff.mp htext
    exact .chars ((CharSet.IgnoresCase.mem_iff h hd).mpr hc)
  | seq _ _ ihr ihs =>
    rw [List.map_append] at htext
    obtain ⟨u', v', rfl, hu, hv⟩ := List.map_eq_append_iff.mp htext
    exact .seq ((ihr h.1 hu).congr_context rfl (by simp [hv]))
      ((ihs h.2 hv).congr_context (by simp [hu]) rfl)
  | altLeft _ ih => exact .altLeft (ih h.1 htext)
  | altRight _ ih => exact .altRight (ih h.2 htext)
  | timesNone =>
    obtain rfl := List.map_eq_nil_iff.mp htext
    exact .timesNone
  | timesMore hmax _ _ ihr ihs =>
    rw [List.map_append] at htext
    obtain ⟨u', v', rfl, hu, hv⟩ := List.map_eq_append_iff.mp htext
    exact .timesMore hmax ((ihr h hu).congr_context rfl (by simp [hv]))
      ((ihs h hv).congr_context (by simp [hu]) rfl)

theorem IgnoresCase.occurs_congr (h : r.IgnoresCase) (hoccurs : Occurs r text)
    (htext : text'.map Char.toLower = text.map Char.toLower) : Occurs r text' := by
  obtain ⟨before, part, after, rfl, hmatch⟩ := hoccurs
  rw [List.map_append, List.map_append] at htext
  obtain ⟨_, after', rfl, hfront, hafter⟩ := List.map_eq_append_iff.mp htext
  obtain ⟨before', part', rfl, hbefore, hpart⟩ := List.map_eq_append_iff.mp hfront
  exact ⟨before', part', after', rfl,
    (h.matches_congr hmatch hpart).congr_context hbefore hafter⟩

end Ignoring

section BothCases

/-- The expression with both cases of each ASCII letter in all its sets. -/
def bothCases : Regex → Regex
  | .chars s => .chars s.bothCases
  | .seq r s => .seq r.bothCases s.bothCases
  | .alt r s => .alt r.bothCases s.bothCases
  | .times r min max => .times r.bothCases min max
  | r => r

theorem Ordered.bothCases (h : r.Ordered) : r.bothCases.Ordered := by
  induction r with
  | empty | assertion _ | chars _ => trivial
  | seq r s ihr ihs | alt r s ihr ihs => exact ⟨ihr h.1, ihs h.2⟩
  | times r min max ih => exact ⟨ih h.1, h.2⟩

theorem ignoresCase_bothCases (r : Regex) : r.bothCases.IgnoresCase := by
  induction r with
  | empty | assertion _ => trivial
  | chars s => exact CharSet.ignoresCase_bothCases s
  | seq r s ihr ihs | alt r s ihr ihs => exact ⟨ihr, ihs⟩
  | times r min max ih => exact ih

theorem Matches.bothCases (h : Matches r before text after) :
    Matches r.bothCases before text after := by
  induction h with
  | empty => exact .empty
  | assertion h => exact .assertion h
  | chars h => exact .chars (CharSet.mem_bothCases_iff.mpr ⟨_, h, rfl⟩)
  | seq _ _ ihr ihs => exact .seq ihr ihs
  | altLeft _ ih => exact .altLeft ih
  | altRight _ ih => exact .altRight ih
  | timesNone => exact .timesNone
  | timesMore hmax _ _ ihr ihs => exact .timesMore hmax ihr ihs

theorem Matches.of_bothCases (h : Matches r.bothCases before text after) :
    ∃ text', text'.map Char.toLower = text.map Char.toLower ∧ Matches r before text' after := by
  induction r generalizing before text after with
  | empty | assertion _ => exact ⟨text, rfl, h⟩
  | chars s =>
    obtain ⟨c, hc, rfl⟩ := matches_chars_iff.mp h
    obtain ⟨d, hd, hcase⟩ := CharSet.mem_bothCases_iff.mp hc
    exact ⟨[d], by rw [List.map_singleton, hcase, List.map_singleton], .chars hd⟩
  | seq r s ihr ihs =>
    obtain ⟨u, v, rfl, hr, hs⟩ := matches_seq_iff.mp h
    obtain ⟨u', hu, hr⟩ := ihr hr
    obtain ⟨v', hv, hs⟩ := ihs hs
    exact ⟨u' ++ v', by simp [hu, hv],
      .seq (hr.congr_context rfl (by simp [hv])) (hs.congr_context (by simp [hu]) rfl)⟩
  | alt r s ihr ihs =>
    rcases matches_alt_iff.mp h with h | h
    · obtain ⟨text', htext, h⟩ := ihr h
      exact ⟨text', htext, .altLeft h⟩
    · obtain ⟨text', htext, h⟩ := ihs h
      exact ⟨text', htext, .altRight h⟩
  | times r min max ih =>
    obtain ⟨n, hmin, hle, hturns⟩ := matches_times_iff.mp h
    -- Every turn finds a case of its own part.
    obtain ⟨text', htext, hturns⟩ : ∃ text', text'.map Char.toLower = text.map Char.toLower ∧
        Turns r n before text' after := by
      clear h hmin hle
      induction hturns with
      | none => exact ⟨[], rfl, .none⟩
      | more hr _ ihturns =>
        obtain ⟨u', hu, hr⟩ := ih hr
        obtain ⟨v', hv, hturns⟩ := ihturns
        exact ⟨u' ++ v', by simp [hu, hv],
          .more (hr.congr_context rfl (by simp [hv])) (hturns.congr_context (by simp [hu]))⟩
    exact ⟨text', htext, matches_times_iff.mpr ⟨n, hmin, hle, hturns⟩⟩

/-- With both cases in all its sets, an expression is found in a text if it was found before in the
text in some case. -/
theorem occurs_bothCases_iff :
    Occurs r.bothCases text ↔
      ∃ text', text'.map Char.toLower = text.map Char.toLower ∧ Occurs r text' := by
  constructor
  · intro h
    obtain ⟨before, part, after, rfl, hmatch⟩ := h
    obtain ⟨part', hpart, hmatch⟩ := hmatch.of_bothCases
    exact ⟨before ++ part' ++ after, by simp [hpart], before, part', after, rfl, hmatch⟩
  · intro h
    obtain ⟨text', htext, before, part, after, rfl, hmatch⟩ := h
    have hboth : Occurs r.bothCases (before ++ part ++ after) :=
      ⟨before, part, after, rfl, hmatch.bothCases⟩
    exact (ignoresCase_bothCases r).occurs_congr hboth htext.symm

end BothCases
end Regex
end SecureChannel
