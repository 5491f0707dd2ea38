import EnvoySidecar.Proofs.Quantity.Outcome
import EnvoySidecar.Proofs.Results
import EnvoySidecar.Resources

/-! The builder of resources answers for its texts in order: the first that is rejected decides the
failure and the log. A rejection is logged if it names the text invalid, and not otherwise. -/

namespace EnvoySidecar

open Quantity

namespace Log

def ofLevel (level : Level) (ns : List Notice) : List Record :=
  (ns.map Notice.record).filter fun r => r.level == level

theorem ofLevel_append (level : Level) (ns ms : List Notice) :
    ofLevel level (ns ++ ms) = ofLevel level ns ++ ofLevel level ms := by
  rw [ofLevel, List.map_append, List.filter_append, ofLevel, ofLevel]

end Log

theorem Quantity.invalid_of_parse {field f : ResourceField} {value v : String}
    (h : parse field value = .error (.invalid f v)) : f = field ∧ v = value := by
  by_cases hesc : Escapes value
  · rcases parse_of_escapes field hesc with hover | ⟨n, hlong⟩
    · simp [hover] at h
    · simp [hlong] at h
  · rcases parse_of_not_escapes field hesc with ⟨q, hq, -⟩ | hinvalid
    · simp [hq] at h
    · simpa [hinvalid, eq_comm] using h

def ResourceTexts.entries (t : ResourceTexts) : List (ResourceField × String) :=
  [(.cpuRequest, t.cpuRequest), (.memoryRequest, t.memoryRequest),
    (.cpuLimit, t.cpuLimit), (.memoryLimit, t.memoryLimit)]

namespace Resources

/-- A text that is no quantity, with its field and the reason. -/
structure Rejection where
  field : ResourceField
  value : String
  fault : Fault
deriving DecidableEq, Repr

namespace Rejection

def records (r : Rejection) : List Log.Record :=
  if r.fault = .invalid r.field r.value then
    [(Log.Notice.resourcesRejected r.fault).record]
  else []

def of? (e : ResourceField × String) : Option Rejection :=
  if e.2 = "" then none
  else
    match parse e.1 e.2 with
    | .ok _ => none
    | .error fault => some ⟨e.1, e.2, fault⟩

def first? (es : List (ResourceField × String)) : Option Rejection :=
  es.findSome? of?

variable {e : ResourceField × String} {r : Rejection}

theorem of?_eq_some_iff :
    of? e = some r ↔ e.2 ≠ "" ∧ e = (r.field, r.value) ∧ parse r.field r.value = .error r.fault := by
  obtain ⟨field, value⟩ := e
  obtain ⟨rfield, rvalue, rfault⟩ := r
  unfold of?
  split
  · next hempty => exact iff_of_false (by simp) fun h => h.1 hempty
  · next hempty =>
    split
    · next q hq =>
      refine iff_of_false (by simp) ?_
      rintro ⟨-, hsame, hfault⟩
      cases hsame
      exact absurd (hq.symm.trans hfault) (by simp)
    · next fault hfault =>
      constructor
      · rintro ⟨⟩
        exact ⟨hempty, rfl, hfault⟩
      · rintro ⟨-, hsame, hfault'⟩
        cases hsame
        cases hfault.symm.trans hfault'
        rfl

end Rejection

variable {α β : Type} {es fs : List (ResourceField × String)} {x : Run α}

/-- A run ends and is logged as the first rejection among some texts says, or well without one. -/
structure Answers (es : List (ResourceField × String)) (x : Run α) : Prop where
  accepted : Rejection.first? es = none →
    (∃ a, x.result = .ok a) ∧ Log.ofLevel .error x.notices = []
  rejected : ∀ r, Rejection.first? es = some r →
    x.result = .error (.quantity r.fault) ∧ Log.ofLevel .error x.notices = r.records

theorem Answers.of_none (h : Rejection.first? es = none) (hresult : ∃ a, x.result = .ok a)
    (herrors : Log.ofLevel .error x.notices = []) : Answers es x where
  accepted := fun _ => ⟨hresult, herrors⟩
  rejected := fun r hr => absurd (h.symm.trans hr) (by simp)

theorem Answers.of_some {r : Rejection} (h : Rejection.first? es = some r)
    (hresult : x.result = .error (.quantity r.fault))
    (herrors : Log.ofLevel .error x.notices = r.records) : Answers es x where
  accepted := fun hnone => absurd (h.symm.trans hnone) (by simp)
  rejected := fun r' hr' => by
    cases h.symm.trans hr'
    exact ⟨hresult, herrors⟩

theorem Answers.pure (h : Rejection.first? es = none) (a : α) : Answers es (pure a : Run α) :=
  .of_none h ⟨a, rfl⟩ rfl

theorem Answers.bind {f : α → Run β} (hx : Answers es x) (hf : ∀ a, Answers fs (f a)) :
    Answers (es ++ fs) (x >>= f) := by
  have hfirst : Rejection.first? (es ++ fs) = (Rejection.first? es).or (Rejection.first? fs) :=
    List.findSome?_append
  cases hes : Rejection.first? es with
  | some r =>
    obtain ⟨hresult, herrors⟩ := hx.rejected r hes
    have hbind : x >>= f = ⟨x.notices, .error (.quantity r.fault)⟩ := Run.bind_of_error hresult f
    rw [hes, Option.some_or] at hfirst
    rw [hbind]
    exact .of_some hfirst rfl herrors
  | none =>
    obtain ⟨⟨a, ha⟩, herrors⟩ := hx.accepted hes
    have hbind : x >>= f = ⟨x.notices ++ (f a).notices, (f a).result⟩ := Run.bind_of_ok ha f
    have hnotices : Log.ofLevel .error (x.notices ++ (f a).notices) =
        Log.ofLevel .error (f a).notices := by
      rw [Log.ofLevel_append, herrors, List.nil_append]
    rw [hes, Option.none_or] at hfirst
    rw [hbind]
    cases hfs : Rejection.first? fs with
    | none =>
      obtain ⟨hresult, hsilent⟩ := (hf a).accepted hfs
      exact .of_none (hfirst.trans hfs) hresult (hnotices.trans hsilent)
    | some r =>
      obtain ⟨hresult, hlogged⟩ := (hf a).rejected r hfs
      exact .of_some (hfirst.trans hfs) hresult (hnotices.trans hlogged)

theorem Answers.map (hx : Answers es x) (g : α → β) :
    Answers es (x >>= fun a => (Pure.pure (g a) : Run β)) := by
  have h := hx.bind fun a => (Answers.pure rfl (g a) : Answers [] _)
  rwa [List.append_nil] at h

theorem answers_quantity (field : ResourceField) (s : String) :
    Answers [(field, s)] (quantity field s) := by
  have hfirst : Rejection.first? [(field, s)] = Rejection.of? (field, s) := by
    rw [Rejection.first?, List.findSome?_singleton]
  unfold quantity
  split
  · next hempty => exact .pure (hfirst.trans (if_pos hempty)) none
  · next hempty =>
    have hrejected {fault : Fault} (h : parse field s = .error fault) :
        Rejection.first? [(field, s)] = some ⟨field, s, fault⟩ :=
      hfirst.trans (Rejection.of?_eq_some_iff.2 ⟨hempty, rfl, h⟩)
    split
    · next q hq =>
      refine .of_none ?_ ⟨some q, rfl⟩ rfl
      simp [hfirst, Rejection.of?, hempty, hq]
    · next f v hfault =>
      obtain ⟨rfl, rfl⟩ := invalid_of_parse hfault
      exact .of_some (hrejected hfault) rfl (if_pos rfl).symm
    · next fault hother hfault =>
      have hescapes : fault ≠ .invalid field s := fun h => hother field s h
      exact .of_some (hrejected hfault) rfl (if_neg hescapes).symm

theorem answers_group (cpuField memoryField : ResourceField) (cpu memory : String) :
    Answers [(cpuField, cpu), (memoryField, memory)]
      (group cpuField memoryField cpu memory) := by
  unfold group
  split
  · next hempty =>
    obtain ⟨rfl, rfl⟩ := hempty
    exact Answers.pure rfl none
  · exact (answers_quantity cpuField cpu).bind fun c =>
      (answers_quantity memoryField memory).map _

theorem answers_build (t : ResourceTexts) : Answers t.entries (build t) := by
  unfold build
  exact (answers_group .cpuRequest .memoryRequest t.cpuRequest t.memoryRequest).bind fun requests =>
    (answers_group .cpuLimit .memoryLimit t.cpuLimit t.memoryLimit).map _

end Resources

end EnvoySidecar
