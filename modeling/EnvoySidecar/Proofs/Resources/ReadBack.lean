import EnvoySidecar.Proofs.Manifest.Paths
import EnvoySidecar.Proofs.Resources
import EnvoySidecar.Proofs.Sidecar.Agreement

/-! Resources and the texts that they are built from. Every quantity that is built is what its own
text reads as, the manifest shows exactly the texts that are not empty, and building once more from
the texts in it makes no difference. -/

namespace EnvoySidecar

open Quantity Manifest

variable {field : ResourceField} {s : String} {t : ResourceTexts}

/-! What texts ask for -/

def ResourceField.path : ResourceField → List String
  | cpuRequest => ["requests", "cpu"]
  | memoryRequest => ["requests", "memory"]
  | cpuLimit => ["limits", "cpu"]
  | memoryLimit => ["limits", "memory"]

namespace ResourceTexts

def text (t : ResourceTexts) : ResourceField → String
  | .cpuRequest => t.cpuRequest
  | .memoryRequest => t.memoryRequest
  | .cpuLimit => t.cpuLimit
  | .memoryLimit => t.memoryLimit

def text? (s : String) : Option Manifest :=
  if s = "" then none else some (.text s)

def group? (cpu memory : String) : Option Manifest :=
  if cpu = "" ∧ memory = "" then none
  else some (.record (Manifest.field "cpu" (text? cpu) ++ Manifest.field "memory" (text? memory)))

def toManifest (t : ResourceTexts) : Manifest :=
  .record (Manifest.field "requests" (group? t.cpuRequest t.memoryRequest) ++
    Manifest.field "limits" (group? t.cpuLimit t.memoryLimit))

def ofManifest (m : Manifest) : ResourceTexts where
  cpuRequest := m.textAt ResourceField.cpuRequest.path
  memoryRequest := m.textAt ResourceField.memoryRequest.path
  cpuLimit := m.textAt ResourceField.cpuLimit.path
  memoryLimit := m.textAt ResourceField.memoryLimit.path

theorem text?_read (s : String) : ((text? s).map (textAt [])).getD "" = s := by
  unfold text?
  split
  · next h => exact h.symm
  · rfl

theorem group?_read (cpu memory : String) :
    ((group? cpu memory).map (textAt ["cpu"])).getD "" = cpu ∧
      ((group? cpu memory).map (textAt ["memory"])).getD "" = memory := by
  unfold group?
  split
  · next h => exact ⟨h.1.symm, h.2.symm⟩
  · simp only [Option.map_some, Option.getD_some, textAt_cons, get?_append, get?_field,
      if_pos, String.reduceEq, if_false, Option.or_none, Option.none_or, text?_read, and_self]

theorem ofManifest_toManifest (t : ResourceTexts) : ofManifest t.toManifest = t := by
  have hrequests : t.toManifest.get? "requests" = group? t.cpuRequest t.memoryRequest := by
    simp [toManifest, get?_append, get?_field]
  have hlimits : t.toManifest.get? "limits" = group? t.cpuLimit t.memoryLimit := by
    simp [toManifest, get?_append, get?_field]
  obtain ⟨hcpuRequest, hmemoryRequest⟩ := group?_read t.cpuRequest t.memoryRequest
  obtain ⟨hcpuLimit, hmemoryLimit⟩ := group?_read t.cpuLimit t.memoryLimit
  simp only [ofManifest, ResourceField.path, textAt_cons _ [_], hrequests, hlimits, hcpuRequest,
    hmemoryRequest, hcpuLimit, hmemoryLimit]

end ResourceTexts

namespace Resources

open ResourceTexts Run

def quantity? (r : Resources) : ResourceField → Option Quantity
  | .cpuRequest => r.requests.bind ResourceGroup.cpu
  | .memoryRequest => r.requests.bind ResourceGroup.memory
  | .cpuLimit => r.limits.bind ResourceGroup.cpu
  | .memoryLimit => r.limits.bind ResourceGroup.memory

structure Holds (field : ResourceField) (s : String) (q : Option Quantity) : Prop where
  reads : ∀ p ∈ q, parse field s = .ok p
  absent_iff : q = none ↔ s = ""

variable {q : Option Quantity} {g : Option ResourceGroup} {r : Resources}
variable {cpuField memoryField : ResourceField} {cpu memory : String}

theorem Holds.eq_some_iff (h : Holds field s q) {p : Quantity} :
    q = some p ↔ s ≠ "" ∧ parse field s = .ok p := by
  constructor
  · rintro rfl
    exact ⟨fun hempty => (nomatch h.absent_iff.2 hempty), h.reads p rfl⟩
  · rintro ⟨hs, hp⟩
    obtain ⟨p', rfl⟩ := Option.ne_none_iff_exists'.1 (mt h.absent_iff.1 hs)
    cases (h.reads p' rfl).symm.trans hp
    rfl

theorem Holds.shown (h : Holds field s q) :
    q.map (fun p => Manifest.text (toString p)) = text? s := by
  unfold text?
  split
  · next hempty => rw [h.absent_iff.2 hempty, Option.map_none]
  · next hs =>
    obtain ⟨p, rfl⟩ := Option.ne_none_iff_exists'.1 (mt h.absent_iff.1 hs)
    obtain ⟨_, _, _, _, hraw⟩ := parse_eq_ok (h.reads p rfl)
    rw [Option.map_some, ← hraw]
    rfl

theorem holds_of_quantity (h : (quantity field s).result = .ok q) : Holds field s q := by
  unfold quantity at h
  split at h
  · next hempty =>
    cases h
    exact ⟨fun _ hp => (nomatch hp), iff_of_true rfl hempty⟩
  · next hs =>
    split at h
    · next p hp =>
      cases h
      refine ⟨?_, iff_of_false (by simp) hs⟩
      rintro _ ⟨⟩
      exact hp
    · cases h
    · cases h

structure HoldsGroup (cpuField memoryField : ResourceField) (cpu memory : String)
    (g : Option ResourceGroup) : Prop where
  holdsCpu : Holds cpuField cpu (g.bind ResourceGroup.cpu)
  holdsMemory : Holds memoryField memory (g.bind ResourceGroup.memory)
  absent_iff : g = none ↔ cpu = "" ∧ memory = ""

theorem holdsGroup_of_group (h : (group cpuField memoryField cpu memory).result = .ok g) :
    HoldsGroup cpuField memoryField cpu memory g := by
  have habsent := group_eq_none_iff h
  unfold group at h
  split at h
  · next hempty =>
    cases h
    have hnone {field : ResourceField} {s : String} (hs : s = "") : Holds field s none :=
      ⟨fun _ hp => (nomatch hp), iff_of_true rfl hs⟩
    exact ⟨hnone hempty.1, hnone hempty.2, habsent⟩
  · simp only [result_bind_eq_ok_iff, result_pure] at h
    obtain ⟨c, hc, m, hm, hg⟩ := h
    cases hg
    exact ⟨holds_of_quantity hc, holds_of_quantity hm, habsent⟩

theorem HoldsGroup.shown (h : HoldsGroup cpuField memoryField cpu memory g) :
    g.map ResourceGroup.toManifest = group? cpu memory := by
  unfold group?
  split
  · next hempty => rw [h.absent_iff.2 hempty, Option.map_none]
  · next hs =>
    obtain ⟨g, rfl⟩ := Option.ne_none_iff_exists'.1 (mt h.absent_iff.1 hs)
    rw [Option.map_some, ResourceGroup.toManifest, ← h.holdsCpu.shown, ← h.holdsMemory.shown]
    rfl

theorem holds_of_build (h : (build t).result = .ok r) :
    HoldsGroup .cpuRequest .memoryRequest t.cpuRequest t.memoryRequest r.requests ∧
      HoldsGroup .cpuLimit .memoryLimit t.cpuLimit t.memoryLimit r.limits := by
  unfold build at h
  simp only [result_bind_eq_ok_iff, result_pure] at h
  obtain ⟨requests, hrequests, limits, hlimits, hr⟩ := h
  cases hr
  exact ⟨holdsGroup_of_group hrequests, holdsGroup_of_group hlimits⟩

theorem quantity?_eq_some_iff (h : (build t).result = .ok r) {p : Quantity} :
    r.quantity? field = some p ↔ t.text field ≠ "" ∧ parse field (t.text field) = .ok p := by
  obtain ⟨hrequests, hlimits⟩ := holds_of_build h
  cases field with
  | cpuRequest => exact hrequests.holdsCpu.eq_some_iff
  | memoryRequest => exact hrequests.holdsMemory.eq_some_iff
  | cpuLimit => exact hlimits.holdsCpu.eq_some_iff
  | memoryLimit => exact hlimits.holdsMemory.eq_some_iff

theorem toManifest_of_build (h : (build t).result = .ok r) : r.toManifest = t.toManifest := by
  obtain ⟨hrequests, hlimits⟩ := holds_of_build h
  rw [toManifest, manifestFields, hrequests.shown, hlimits.shown]
  rfl

theorem ofManifest_of_build (h : (build t).result = .ok r) : ofManifest r.toManifest = t := by
  rw [toManifest_of_build h, ofManifest_toManifest]

/-! The first text that is malformed -/

def Fits (e : ResourceField × String) : Prop :=
  e.2 = "" ∨ ∃ p, parse e.1 e.2 = .ok p

theorem Rejection.of?_eq_none_iff {e : ResourceField × String} : of? e = none ↔ Fits e := by
  unfold of? Fits
  by_cases hempty : e.2 = ""
  · simp [hempty]
  · cases parse e.1 e.2 <;> simp [hempty]

/-- The text and the reason why it is the first that is malformed. -/
def FirstMalformed (t : ResourceTexts) (e : ResourceField × String) (fault : Fault) : Prop :=
  ∃ before after, t.entries = before ++ e :: after ∧ (∀ b ∈ before, Fits b) ∧
    e.2 ≠ "" ∧ parse e.1 e.2 = .error fault

theorem first?_of_firstMalformed {e : ResourceField × String} {fault : Fault}
    (h : FirstMalformed t e fault) : Rejection.first? t.entries = some ⟨e.1, e.2, fault⟩ := by
  obtain ⟨before, after, hentries, hbefore, hasks, hfault⟩ := h
  exact List.findSome?_eq_some_iff.2 ⟨before, e, after, hentries,
    Rejection.of?_eq_some_iff.2 ⟨hasks, rfl, hfault⟩,
    fun b hb => Rejection.of?_eq_none_iff.2 (hbefore b hb)⟩

def invalidRecord (e : ResourceField × String) : Log.Record where
  level := .error
  source := "meshsidecar.builders.resources"
  text := s!"Sidecar resources rejected: Invalid {e.1.label} quantity: {Text.quoted e.2}"

/-- The first malformed text decides: building fails as it does, with one line about its field if
it is named invalid and none otherwise, whatever comes behind it. Without one, every field has the
quantity that its own text reads as, a group is absent exactly if both its texts are empty, the
manifest shows the texts that are not empty, and the texts in it build the same resources. -/
theorem build_settles (t : ResourceTexts) :
    (∀ e fault, FirstMalformed t e fault →
      (build t).result = .error (.quantity fault) ∧
        (fault = .invalid e.1 e.2 ∧ Log.ofLevel .error (build t).notices = [invalidRecord e] ∨
          (∀ field s, fault ≠ .invalid field s) ∧ Log.ofLevel .error (build t).notices = [])) ∧
      ((∀ e ∈ t.entries, Fits e) →
        ∃ r, (build t).result = .ok r ∧ Log.ofLevel .error (build t).notices = [] ∧
          (∀ field q, r.quantity? field = some q ↔
            t.text field ≠ "" ∧ parse field (t.text field) = .ok q) ∧
          (r.requests = none ↔ t.cpuRequest = "" ∧ t.memoryRequest = "") ∧
          (r.limits = none ↔ t.cpuLimit = "" ∧ t.memoryLimit = "") ∧
          r.toManifest = t.toManifest ∧ ofManifest r.toManifest = t ∧
          (build (ofManifest r.toManifest)).result = .ok r) := by
  constructor
  · intro e fault h
    have hfirst := first?_of_firstMalformed h
    obtain ⟨_, _, -, -, -, hfault⟩ := h
    obtain ⟨hresult, herrors⟩ := (answers_build t).rejected _ hfirst
    refine ⟨hresult, ?_⟩
    by_cases hinvalid : fault = .invalid e.1 e.2
    · exact .inl ⟨hinvalid, by rw [herrors, Rejection.records, if_pos hinvalid, hinvalid]; rfl⟩
    · refine .inr ⟨?_, herrors.trans (if_neg hinvalid)⟩
      rintro field s rfl
      obtain ⟨rfl, rfl⟩ := invalid_of_parse hfault
      exact hinvalid rfl
  · intro hfits
    have hnone : Rejection.first? t.entries = none :=
      List.findSome?_eq_none_iff.2 fun e he => Rejection.of?_eq_none_iff.2 (hfits e he)
    obtain ⟨⟨r, hr⟩, herrors⟩ := (answers_build t).accepted hnone
    obtain ⟨hrequests, hlimits⟩ := holds_of_build hr
    have hback := ofManifest_of_build hr
    exact ⟨r, hr, herrors, fun field q => quantity?_eq_some_iff hr, hrequests.absent_iff,
      hlimits.absent_iff, toManifest_of_build hr, hback, hback.symm ▸ hr⟩

theorem build_settles_mixed :
    let t : ResourceTexts := ⟨"250m", "2xyz", "1e1000000", "lots"⟩
    let u : ResourceTexts := ⟨"250m", "", "", "256Mi"⟩
    FirstMalformed t (.memoryRequest, "2xyz") (.invalid .memoryRequest "2xyz") ∧
      Log.ofLevel .error (build t).notices = [invalidRecord (.memoryRequest, "2xyz")] ∧
      (∀ e ∈ u.entries, Fits e) ∧
      ∃ r, (build u).result = .ok r ∧
        r.quantity? .memoryLimit = some ⟨"256Mi", ⟨false, 268435456, 0⟩⟩ ∧
        ofManifest r.toManifest = u := by
  intro t u
  have hcpu (field : ResourceField) : Fits (field, "250m") := .inr ⟨⟨"250m", ⟨false, 250, -3⟩⟩, by
    cases field <;> decide +kernel⟩
  have hmemory : parse .memoryLimit "256Mi" = .ok ⟨"256Mi", ⟨false, 268435456, 0⟩⟩ := by
    decide +kernel
  have hfirst : FirstMalformed t (.memoryRequest, "2xyz") (.invalid .memoryRequest "2xyz") :=
    ⟨[(.cpuRequest, "250m")], [(.cpuLimit, "1e1000000"), (.memoryLimit, "lots")], rfl,
      List.forall_mem_singleton.2 (hcpu _), by decide, by decide +kernel⟩
  have hfits : ∀ e ∈ u.entries, Fits e := by
    simp only [ResourceTexts.entries, List.forall_mem_cons, List.not_mem_nil, false_implies,
      implies_true, and_true]
    exact ⟨hcpu _, .inl rfl, .inl rfl, .inr ⟨_, hmemory⟩⟩
  obtain ⟨-, hlogged⟩ := (build_settles t).1 _ _ hfirst
  obtain ⟨r, hr, -, hread, -, -, -, hback, -⟩ := (build_settles u).2 hfits
  exact ⟨hfirst, hlogged.elim And.right fun h => absurd rfl (h.1 _ _), hfits, r, hr,
    (hread _ _).2 ⟨by decide, hmemory⟩, hback⟩

end Resources

end EnvoySidecar
