import EnvoySidecar.Proofs.Env.Assignments
import EnvoySidecar.Proofs.Resources.ReadBack
import EnvoySidecar.Proofs.Text.Legible
import EnvoySidecar.Proofs.Text.Unquoting

/-! What is said about a text that is refused. The message and the lines of the log quote it behind
words of their own, so that they stay on one line of printable characters whatever the text holds,
and tell every other text and field from it. -/

namespace EnvoySidecar

open Text

/-! Amounts beside quoted texts -/

namespace Decimal

variable {ds : List Char}

theorem isPrintable_pointed (hds : ∀ c ∈ ds, isPrintable c = true) (point : Int) :
    ∀ c ∈ pointed ds point, isPrintable c = true := by
  unfold pointed
  dsimp only
  split_ifs
  · rw [List.forall_mem_append, List.forall_mem_cons]
    exact ⟨fun c hc => hds c (List.mem_of_mem_take hc), rfl,
      fun c hc => hds c (List.mem_of_mem_drop hc)⟩
  · exact hds
  · rw [List.forall_mem_cons, List.forall_mem_cons, List.forall_mem_append]
    exact ⟨rfl, rfl, fun c hc => List.eq_of_mem_replicate hc ▸ rfl, hds⟩

theorem isPrintable_digits (n : Nat) : ∀ c ∈ digits n, isPrintable c = true :=
  fun _ hc => isPrintable_of_isDigit (isDigit_of_mem_digits hc)

theorem isPrintable_scientific (hds : ∀ c ∈ ds, isPrintable c = true) (e : Int) :
    ∀ c ∈ scientific ds e, isPrintable c = true := by
  have hexponent : ∀ c ∈ 'E' :: (if e < 0 then '-' else '+') :: digits e.natAbs,
      isPrintable c = true := by
    rw [List.forall_mem_cons, List.forall_mem_cons]
    exact ⟨rfl, by split_ifs <;> rfl, isPrintable_digits _⟩
  unfold scientific
  rw [List.forall_mem_append]
  refine ⟨?_, hexponent⟩
  split
  · rw [List.forall_mem_cons, List.forall_mem_cons]
    rw [List.forall_mem_cons] at hds
    exact ⟨hds.1, rfl, hds.2⟩
  · exact hds

theorem legible_toText (d : Decimal) : Legible d.toText := by
  have hbody : ∀ c ∈ if d.exponent ≤ 0 ∧ -6 ≤ d.leading then
      pointed (digits d.coefficient) (d.exponent + (digits d.coefficient).length)
      else scientific (digits d.coefficient) d.leading, isPrintable c = true := by
    split_ifs
    · exact isPrintable_pointed (isPrintable_digits _) _
    · exact isPrintable_scientific (isPrintable_digits _) _
  rw [legible_iff, toText, String.toList_ofList, List.all_eq_true, text]
  by_cases hnegative : d.negative
  · rw [if_pos hnegative, List.forall_mem_cons]
    exact ⟨rfl, hbody⟩
  · rw [if_neg hnegative]
    exact hbody

end Decimal

namespace Quantity

variable {field field' : ResourceField} {value value' : String}

def words (field : ResourceField) : String :=
  "Invalid " ++ field.label ++ " quantity: "

theorem message_invalid (field : ResourceField) (value : String) :
    (Fault.invalid field value).message = words field ++ quoted value :=
  rfl

theorem words_inj : words field = words field' ↔ field = field' := by
  cases field <;> cases field' <;> decide

theorem message_invalid_inj :
    (Fault.invalid field value).message = (Fault.invalid field' value').message ↔
      field = field' ∧ value = value' := by
  have hwords (f : ResourceField) : (words f).toList.all (!isQuote ·) = true := by
    cases f <;> decide
  rw [message_invalid, message_invalid, append_quoted_inj (hwords field) (hwords field'), words_inj]

theorem legible_message_invalid (field : ResourceField) (value : String) :
    Legible (Fault.invalid field value).message := by
  have hwords : Legible (words field) := by
    cases field <;> decide
  exact hwords.append (legible_quoted value)

end Quantity

namespace SettingsFault

variable {s s' : String}

theorem message_assignment_inj :
    (assignment s).message = (assignment s').message ↔ s = s' := by
  have hwords : "Expected KEY=VALUE, got ".toList.all (!isQuote ·) = true := by decide
  exact (append_quoted_inj hwords hwords).trans (and_iff_right rfl)

theorem legible_message_assignment (s : String) : Legible (assignment s).message := by
  have hwords : Legible "Expected KEY=VALUE, got " := by decide
  exact hwords.append (legible_quoted s)

end SettingsFault

/-! Lines of the log -/

namespace Log.Notice

variable {n : Notice}

theorem legible_line (h : Legible n.text) : Legible n.record.line := by
  have hlevel : Legible n.level.name := by
    cases n.level <;> decide
  have hsource : Legible n.source := by
    unfold source
    split <;> decide
  have hspace : Legible " " := by decide
  exact (((hlevel.append hspace).append hsource).append hspace).append h

theorem legible_quantityParsed (field : ResourceField) (q : Quantity) :
    Legible (quantityParsed field q).record.line := by
  have hwords : Legible ("Parsed " ++ field.label ++ " ") := by
    cases field <;> decide
  have hjoint : Legible " as " := by decide
  exact legible_line (((hwords.append (legible_quoted q.raw)).append hjoint).append
    q.amount.legible_toText)

theorem legible_resourcesRejected (field : ResourceField) (value : String) :
    Legible (resourcesRejected (.invalid field value)).record.line := by
  have hwords : Legible "Sidecar resources rejected: " := by decide
  exact legible_line (hwords.append (Quantity.legible_message_invalid field value))

end Log.Notice

namespace Resources

open Quantity

variable {n : Log.Notice} {t t' : ResourceTexts} {e e' : ResourceField × String}

theorem legible_of_mem_quantity {field : ResourceField} {s : String}
    (h : n ∈ (quantity field s).notices) : Legible n.record.line := by
  unfold quantity at h
  split at h
  · cases h
  · split at h
    · next q hq =>
      have hnotices : n ∈ [Log.Notice.quantityParsed field q] := h
      rw [List.mem_singleton.1 hnotices]
      exact Log.Notice.legible_quantityParsed field q
    · next f v hfault =>
      have hnotices : n ∈ [Log.Notice.resourcesRejected (.invalid f v)] := h
      rw [List.mem_singleton.1 hnotices]
      exact Log.Notice.legible_resourcesRejected f v
    · -- no other fault leaves a line
      cases h

theorem legible_of_mem_group {cpuField memoryField : ResourceField} {cpu memory : String}
    (h : n ∈ (group cpuField memoryField cpu memory).notices) : Legible n.record.line := by
  unfold group at h
  split at h
  · cases h
  · obtain h | ⟨c, h⟩ := Run.mem_notices_bind h
    · exact legible_of_mem_quantity h
    · obtain h | ⟨m, h⟩ := Run.mem_notices_bind h
      · exact legible_of_mem_quantity h
      · cases h

theorem legible_of_mem_build (h : n ∈ (build t).notices) : Legible n.record.line := by
  unfold build at h
  obtain h | ⟨requests, h⟩ := Run.mem_notices_bind h
  · exact legible_of_mem_group h
  · obtain h | ⟨limits, h⟩ := Run.mem_notices_bind h
    · exact legible_of_mem_group h
    · cases h

theorem errors_of_firstMalformed (h : FirstMalformed t e (.invalid e.1 e.2)) :
    Log.ofLevel .error (build t).notices =
      [(Log.Notice.resourcesRejected (.invalid e.1 e.2)).record] := by
  obtain ⟨-, herrors⟩ := (answers_build t).rejected _ (first?_of_firstMalformed h)
  exact herrors.trans (if_pos rfl)

theorem eq_of_errors (h : FirstMalformed t e (.invalid e.1 e.2))
    (h' : FirstMalformed t' e' (.invalid e'.1 e'.2))
    (hlog : Log.ofLevel .error (build t).notices = Log.ofLevel .error (build t').notices) :
    e = e' := by
  rw [errors_of_firstMalformed h, errors_of_firstMalformed h'] at hlog
  have htext := congrArg Log.Record.text (List.head_eq_of_cons_eq hlog)
  have hmessage : (Fault.invalid e.1 e.2).message = (Fault.invalid e'.1 e'.2).message :=
    (String.append_right_inj _).1 htext
  obtain ⟨hfield, hvalue⟩ := message_invalid_inj.1 hmessage
  exact Prod.ext hfield hvalue

end Resources

namespace Failure

open Env.Assignment (Malformed)
open Resources (FirstMalformed)

/-- A text that is refused, as a quantity or as an assignment, is quoted behind fixed words, in a
message of printable characters that no other text and no other field has. The lines that building
resources leaves in the log are printable as well, and the one about a refusal tells which text was
refused, and under which field. What is quoted reads back as the text, and stands unchanged if it is
ordinary. -/
theorem refusals_legible :
    (∀ field value, (Quantity.Fault.invalid field value).message =
          "Invalid " ++ field.label ++ " quantity: " ++ quoted value ∧
        Legible (Quantity.Fault.invalid field value).message ∧
        ∀ field' value', (Quantity.Fault.invalid field' value').message =
          (Quantity.Fault.invalid field value).message → field' = field ∧ value' = value) ∧
      (∀ t, ∀ n ∈ (Resources.build t).notices, Legible n.record.line) ∧
      (∀ t t' e e', FirstMalformed t e (.invalid e.1 e.2) →
        FirstMalformed t' e' (.invalid e'.1 e'.2) →
        Log.ofLevel .error (Resources.build t).notices =
          Log.ofLevel .error (Resources.build t').notices → e = e') ∧
      (∀ before s after, (∀ x ∈ before, ¬Malformed x) → Malformed s →
        Env.Store.ofAssignments (before ++ s :: after) = .error (.assignment s)) ∧
      (∀ s, (SettingsFault.assignment s).message = "Expected KEY=VALUE, got " ++ quoted s ∧
        Legible (SettingsFault.assignment s).message ∧
        ∀ s', (SettingsFault.assignment s').message = (SettingsFault.assignment s).message →
          s' = s) ∧
      ∀ s, unquoted? (quoted s) = some s ∧
        (s.toList.all isOrdinary → quoted s = "'" ++ s ++ "'") := by
  refine ⟨fun field value => ?_, fun t n => Resources.legible_of_mem_build,
    fun t t' e e' => Resources.eq_of_errors, fun before s after => Env.ofAssignments_of_malformed,
    fun s => ?_, fun s => ⟨unquoted?_quoted s, quoted_of_ordinary⟩⟩
  · exact ⟨Quantity.message_invalid field value, Quantity.legible_message_invalid field value,
      fun field' value' => Quantity.message_invalid_inj.1⟩
  · exact ⟨rfl, SettingsFault.legible_message_assignment s,
      fun s' => SettingsFault.message_assignment_inj.1⟩

theorem refusals_legible_forged :
    let feed : ResourceTexts := ⟨"", "", "2\n", ""⟩
    let letters : ResourceTexts := ⟨"250m", "", "2\\n", ""⟩
    let forged := "2'\nERROR root \x1b[2K\u202e"
    let line := "=\u2028"
    Log.ofLevel .error (Resources.build feed).notices ≠
        Log.ofLevel .error (Resources.build letters).notices ∧
      (Quantity.Fault.invalid .cpuLimit forged).message =
        "Invalid cpu limit quantity: \"2'\\nERROR root \\x1b[2K\\u202e\"" ∧
      Legible (Quantity.Fault.invalid .cpuLimit forged).message ∧
      Env.Store.ofAssignments ["A=1", line, "="] = .error (.assignment line) ∧
      (SettingsFault.assignment line).message = "Expected KEY=VALUE, got '=\\u2028'" ∧
      Legible (SettingsFault.assignment line).message ∧
      unquoted? (quoted forged) = some forged ∧ quoted "½ é" = "'½ é'" := by
  intro feed letters forged line
  have hfeed : FirstMalformed feed (.cpuLimit, "2\n") (.invalid .cpuLimit "2\n") :=
    ⟨[(.cpuRequest, ""), (.memoryRequest, "")], [(.memoryLimit, "")], rfl,
      by simp [Resources.Fits], by decide, by decide +kernel⟩
  have hletters : FirstMalformed letters (.cpuLimit, "2\\n") (.invalid .cpuLimit "2\\n") :=
    ⟨[(.cpuRequest, "250m"), (.memoryRequest, "")], [(.memoryLimit, "")], rfl,
      List.forall_mem_cons.2 ⟨.inr ⟨⟨"250m", ⟨false, 250, -3⟩⟩, by decide +kernel⟩,
        by simp [Resources.Fits]⟩, by decide, by decide +kernel⟩
  obtain ⟨hquantity, -, hlog, hassignment, hmessage, hquoted⟩ := refusals_legible
  obtain ⟨htext, hlegible, -⟩ := hquantity .cpuLimit forged
  obtain ⟨hline, hshown, -⟩ := hmessage line
  refine ⟨fun h => absurd (hlog _ _ _ _ hfeed hletters h) (by decide), htext.trans (by decide),
    hlegible, hassignment ["A=1"] line ["="] (by decide) (by decide), hline.trans (by decide),
    hshown, (hquoted forged).1, (hquoted "½ é").2 (by decide)⟩

end Failure

end EnvoySidecar
