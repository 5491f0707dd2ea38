import EnvoySidecar.Log.Root
import EnvoySidecar.Proofs.CommandLine
import EnvoySidecar.Proofs.CommandLine.Exits

/-! What a text makes of the log's threshold. The names of levels count in any case, and every other
text counts as the name of the default level, but for two words that are attributes of the same
vocabulary without being levels: these are refused when the threshold is set, behind the handlers
and before the command. -/

namespace EnvoySidecar.Log

namespace Level

def names : Level → List String
  | warning => ["WARNING", "WARN"]
  | critical => ["CRITICAL", "FATAL"]
  | l => [l.name]

def strangers : List String :=
  ["BASIC_FORMAT", "_STYLES"]

def cased (up : Char → List Char) (s : String) : String :=
  String.ofList (s.toList.flatMap up)

def Exotic (cs : List Char) : Prop :=
  ∃ c ∈ cs, 0x80 ≤ c.toNat

/-- Whatever else the map makes of a character that `upperChar` does not make, neither of them ends
in ASCII there. This is true of upper case in full. -/
def IsUpper (up : Char → List Char) : Prop :=
  ∀ c, up c = upperChar c ∨ (Exotic (up c) ∧ Exotic (upperChar c))

variable {l : Level} {s t : String} {up : Char → List Char}

theorem named?_eq_ok_iff : named? t = some (.ok l) ↔ t ∈ l.names := by
  constructor
  · intro h
    unfold named? at h
    split at h <;> cases h <;> decide
  · intro h
    cases l <;> simp only [names, name, List.mem_cons, List.not_mem_nil, or_false] at h
    case warning | critical =>
      rcases h with rfl | rfl
      · rfl
      · rfl
    all_goals
      subst h
      rfl

theorem named?_eq_error_iff : (∃ fault, named? t = some (.error fault)) ↔ t ∈ strangers := by
  constructor
  · rintro ⟨fault, h⟩
    unfold named? at h
    split at h <;> cases h <;> decide
  · intro h
    simp only [strangers, List.mem_cons, List.not_mem_nil, or_false] at h
    rcases h with rfl | rfl
    · exact ⟨_, rfl⟩
    · exact ⟨_, rfl⟩

theorem named?_eq_none_iff : named? t = none ↔ (∀ l : Level, t ∉ l.names) ∧ t ∉ strangers := by
  simp only [← named?_eq_ok_iff, ← named?_eq_error_iff, not_exists]
  constructor
  · intro h
    simp [h]
  · rintro ⟨hok, herror⟩
    cases h : named? t with
    | none => rfl
    | some r =>
      cases r with
      | ok l => exact absurd h (hok l)
      | error fault => exact absurd h (herror fault)

theorem named?_of_exotic (h : Exotic t.toList) : named? t = none := by
  obtain ⟨c, hc, hhigh⟩ := h
  have hascii (u : String) (hu : u.toList.all (·.toNat < 0x80) = true) : t ≠ u := by
    rintro rfl
    have hlow := List.all_eq_true.1 hu c hc
    rw [decide_eq_true_eq] at hlow
    omega
  rw [named?_eq_none_iff]
  constructor
  · intro l
    cases l <;> simp [names, name, hascii]
  · simp [strangers, hascii]

theorem upper_eq_cased (s : String) : upper s = cased upperChar s := rfl

theorem named?_cased (h : IsUpper up) (s : String) : named? (cased up s) = named? (upper s) := by
  rw [upper_eq_cased]
  by_cases hsame : ∀ c ∈ s.toList, up c = upperChar c
  · rw [cased, cased, List.flatMap_congr hsame]
  · obtain ⟨c, hc, hne⟩ : ∃ c ∈ s.toList, up c ≠ upperChar c := by simpa using hsame
    obtain ⟨hup, hupper⟩ := (h c).resolve_left hne
    have hexotic (f : Char → List Char) (hf : Exotic (f c)) : Exotic (cased f s).toList := by
      obtain ⟨x, hx, hhigh⟩ := hf
      rw [cased, String.toList_ofList]
      exact ⟨x, List.mem_flatMap.2 ⟨c, hc, hx⟩, hhigh⟩
    rw [named?_of_exotic (hexotic up hup), named?_of_exotic (hexotic upperChar hupper)]

theorem ofText_cased (h : IsUpper up) (s : String) :
    ofText s = (named? (cased up s)).getD (.ok default) := by
  rw [named?_cased h, ofText]

theorem ofText_of_mem (h : IsUpper up) (hl : cased up s ∈ l.names) : ofText s = .ok l := by
  rw [ofText_cased h, named?_eq_ok_iff.2 hl]
  rfl

theorem ofText_of_unknown (h : IsUpper up) (hnames : ∀ l : Level, cased up s ∉ l.names)
    (hstrangers : cased up s ∉ strangers) : ofText s = .ok info := by
  rw [ofText_cased h, named?_eq_none_iff.2 ⟨hnames, hstrangers⟩]
  rfl

theorem ofText_of_stranger (h : IsUpper up) (hs : cased up s ∈ strangers) :
    ∃ fault, ofText s = .error fault := by
  obtain ⟨fault, hfault⟩ := named?_eq_error_iff.2 hs
  refine ⟨fault, ?_⟩
  rw [ofText_cased h, hfault]
  rfl

theorem ofText_of_not_stranger (h : IsUpper up) (hs : cased up s ∉ strangers) :
    ∃ l, ofText s = .ok l := by
  by_cases hnamed : ∃ l : Level, cased up s ∈ l.names
  · obtain ⟨l, hl⟩ := hnamed
    exact ⟨l, ofText_of_mem h hl⟩
  · exact ⟨info, ofText_of_unknown h (not_exists.1 hnamed) hs⟩

theorem ofText_name (l : Level) : ofText l.name = .ok l := by
  cases l <;> decide +kernel

end Level

namespace Root

variable {s : String} {l : Level}

theorem foldl_remove (t : Int) (hs : List Handler) : hs.foldl remove ⟨t, hs⟩ = ⟨t, []⟩ := by
  induction hs with
  | nil => rfl
  | cons h rest ih =>
    have hstep : remove ⟨t, h :: rest⟩ h = ⟨t, rest⟩ := by
      rw [remove, List.erase_cons_head]
    rw [List.foldl_cons, hstep, ih]

theorem clear_eq (r : Root) : r.clear = ⟨r.threshold, []⟩ :=
  foldl_remove r.threshold r.handlers

theorem setup_eq (r : Root) (s : String) : r.setup s =
    match Level.ofText s with
    | .ok l => ⟨⟨l.number, [.errorStream]⟩, .ok ()⟩
    | .error fault => ⟨⟨r.threshold, [.errorStream]⟩, .error fault⟩ := by
  rw [setup, clear_eq]
  rfl

theorem setup_of_ok (r : Root) (h : Level.ofText s = .ok l) :
    r.setup s = ⟨⟨l.number, [.errorStream]⟩, .ok ()⟩ := by
  rw [setup_eq, h]

theorem setup_of_error (r : Root) {fault : Level.Fault} (h : Level.ofText s = .error fault) :
    r.setup s = ⟨⟨r.threshold, [.errorStream]⟩, .error fault⟩ := by
  rw [setup_eq, h]

end Root

end EnvoySidecar.Log

namespace EnvoySidecar.CommandLine

open Log (Level Root)

variable {w : Wording} {i : Invocation} {entry : Files.Entry} {l : Level} {f : Failure}

theorem runIn_of_refused {fault : Level.Fault} (h : Level.ofText i.level = .error fault) :
    i.runIn w entry = ⟨"", [], .escape (.level fault)⟩ := by
  simp only [Invocation.runIn, h]

theorem runIn_named (h : Level.ofText i.level = .ok l) :
    i.runIn w entry = Invocation.runIn w { i with level := l.name } entry := by
  simp only [Invocation.runIn, h, Level.ofText_name]

/-- However many handlers there were and whatever the threshold was, one handler is left that
writes to the error stream. The threshold is that of the level that the text names in upper case,
and of the default level if it names none, unless the text is one of two words: these are refused,
and keep a command line from running its command. No other text does. -/
theorem setup_answers {up : Char → List Char} (hup : Level.IsUpper up) (s : String) (r : Root) :
    (r.setup s).root.handlers = [.errorStream] ∧
      ((r.setup s).result = .ok () ↔ Level.cased up s ∉ Level.strangers) ∧
      (∀ l : Level, Level.cased up s ∈ l.names → (r.setup s).root.threshold = l.number) ∧
      ((∀ l : Level, Level.cased up s ∉ l.names) → Level.cased up s ∉ Level.strangers →
        (r.setup s).root.threshold = Level.info.number) ∧
      ∀ (w : Wording) (i : Invocation) (entry : Files.Entry), i.level = s →
        (Level.cased up s ∈ Level.strangers →
          ∃ fault, i.runIn w entry = ⟨"", [], .escape (.level fault)⟩) ∧
        (Level.cased up s ∉ Level.strangers →
          ∃ l : Level, (r.setup s).root.threshold = l.number ∧
            i.runIn w entry = Invocation.runIn w { i with level := l.name } entry ∧
            ((i.runIn w entry).ending = .exit 0 ↔
              ∃ printed, (execute w i.path entry i.command).result = .ok printed ∧
                printed.result = .ok ()) ∧
            ∀ f, (execute w i.path entry i.command).result = .error f →
              i.runIn w entry = failingIn w "" ((Log.records l
                (execute w i.path entry i.command).notices).map Report.record) f) := by
  refine ⟨?handlers, ⟨?refused, ?accepted⟩, ?named, ?unknown, ?line⟩
  case handlers =>
    rw [Root.setup_eq]
    cases Level.ofText s with
    | ok l => rfl
    | error fault => rfl
  case refused =>
    intro hok hstranger
    obtain ⟨fault, hfault⟩ := Level.ofText_of_stranger hup hstranger
    rw [Root.setup_of_error r hfault] at hok
    cases hok
  case accepted =>
    intro hstranger
    obtain ⟨l, hl⟩ := Level.ofText_of_not_stranger hup hstranger
    rw [Root.setup_of_ok r hl]
  case named =>
    intro l hl
    rw [Root.setup_of_ok r (Level.ofText_of_mem hup hl)]
  case unknown =>
    intro hnames hstranger
    rw [Root.setup_of_ok r (Level.ofText_of_unknown hup hnames hstranger)]
  case line =>
    rintro w i entry rfl
    refine ⟨fun hstranger => ?_, fun hstranger => ?_⟩
    · obtain ⟨fault, hfault⟩ := Level.ofText_of_stranger hup hstranger
      exact ⟨fault, runIn_of_refused hfault⟩
    · obtain ⟨l, hl⟩ := Level.ofText_of_not_stranger hup hstranger
      refine ⟨l, ?_, runIn_named hl, ?_, fun f => runIn_of_error hl⟩
      · rw [Root.setup_of_ok r hl]
      · rw [runIn_exit_iff]
        exact and_iff_right ⟨l, hl⟩

def letterUpper (c : Char) : List Char :=
  if c = 'ŉ' then ['ʼ', 'N'] else Level.upperChar c

theorem setup_answers_letters :
    let r : Root := ⟨15, [.outputStream, .file "a.log", .outputStream]⟩
    Level.IsUpper letterUpper ∧
      Level.cased letterUpper "warnıng" ∈ Level.warning.names ∧
      (r.setup "warnıng").result = .ok () ∧ (r.setup "warnıng").root = ⟨30, [.errorStream]⟩ ∧
      Level.cased letterUpper "ŉotset" = "ʼNOTSET" ∧
      (r.setup "ŉotset").result = .ok () ∧ (r.setup "ŉotset").root = ⟨20, [.errorStream]⟩ := by
  have hup : Level.IsUpper letterUpper := by
    intro c
    by_cases h : c = 'ŉ'
    · subst h
      exact .inr ⟨⟨'ʼ', by decide, by decide⟩, ⟨'ŉ', by decide, by decide⟩⟩
    · exact .inl (if_neg h)
  have hnamed : Level.cased letterUpper "warnıng" ∈ Level.warning.names := by decide +kernel
  have hcased : Level.cased letterUpper "ŉotset" = "ʼNOTSET" := by decide +kernel
  intro r
  obtain ⟨hhandlers, hresult, hthreshold, -⟩ := setup_answers hup "warnıng" r
  obtain ⟨hhandlers', hresult', -, hthreshold', -⟩ := setup_answers hup "ŉotset" r
  rw [hcased] at hresult' hthreshold'
  have hlevel : (r.setup "warnıng").root.threshold = 30 := hthreshold .warning hnamed
  have hdefault : (r.setup "ŉotset").root.threshold = 20 :=
    hthreshold' (fun l => by cases l <;> decide) (by decide)
  refine ⟨hup, hnamed, hresult.2 (by decide +kernel), ?_, hcased, hresult'.2 (by decide), ?_⟩
  · rw [← hlevel, ← hhandlers]
  · rw [← hdefault, ← hhandlers']

/-- Two words are refused, by which time the handlers have changed, and a command line with one of
them ends before its command. -/
theorem setup_unanswered :
    Root.setup ⟨30, []⟩ "basic_format" = ⟨⟨30, [.errorStream]⟩, .error .recordFormat⟩ ∧
      Root.setup ⟨30, []⟩ "_styles" = ⟨⟨30, [.errorStream]⟩, .error .recordStyles⟩ ∧
      Invocation.run ⟨.validate, "sidecar.yaml", "basic_format"⟩ (meshSettings "m") =
        ⟨"", [], .escape (.level .recordFormat)⟩ := by
  have hformat : Level.ofText "basic_format" = .error .recordFormat := by decide +kernel
  have hstyles : Level.ofText "_styles" = .error .recordStyles := by decide +kernel
  refine ⟨Root.setup_of_error _ hformat, Root.setup_of_error _ hstyles, ?_⟩
  exact runIn_of_refused hformat

end EnvoySidecar.CommandLine
