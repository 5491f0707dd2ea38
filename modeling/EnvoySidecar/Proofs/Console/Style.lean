import EnvoySidecar.Console.Style
import EnvoySidecar.Proofs.Results

/-! Names of styles that are sure to be read. A number stands in them only behind a parenthesis, and
none comes up that is not there: neither lower case nor the usual order of words brings one in. -/

namespace EnvoySidecar.Console.Style

open Text

variable {cs w next : List Char} {ws : List (List Char)} {c : Char} {d : Definition}

theorem ofNat_ne_paren {n : Nat} (h : 0x41 ≤ n) : Char.ofNat n ≠ '(' := by
  by_cases hn : n.isValidChar
  · have hchar : Char.ofNat n = Char.ofNatAux n hn := dif_pos hn
    have hcode : (Char.ofNatAux n hn).toNat = n := rfl
    have hparen : '('.toNat = 0x28 := rfl
    intro heq
    rw [hchar] at heq
    rw [heq] at hcode
    omega
  · have hchar : Char.ofNat n = '\x00' := dif_neg hn
    rw [hchar]
    decide

theorem lowerAsciiChar_ne_paren (h : c ≠ '(') : lowerAsciiChar c ≠ '(' := by
  unfold lowerAsciiChar
  split_ifs with hcapital
  · simp only [Bool.and_eq_true, decide_eq_true_eq, Char.le_def, UInt32.le_iff_toNat_le] at hcapital
    have hlow : 0x41 ≤ c.toNat := hcapital.1
    exact ofNat_ne_paren (by omega)
  · exact h

theorem lowerChar_ne_paren (h : c ≠ '(') : lowerChar c ≠ '(' := by
  have hruns : ∀ r ∈ capitalRuns, 0x41 ≤ (r.1 : Int) + r.2.2.2 := by decide +kernel
  unfold lowerChar
  dsimp only
  split_ifs
  · exact lowerAsciiChar_ne_paren h
  · split
    · next r hfind =>
      have hr := hruns r (List.mem_of_find?_eq_some hfind)
      have hfirst := List.find?_some hfind
      simp only [Bool.and_eq_true, decide_eq_true_eq] at hfirst
      exact ofNat_ne_paren (by omega)
    · exact h

theorem paren_notMem_lowerFrom (before : List Char) (h : '(' ∉ cs) : '(' ∉ lowerFrom before cs := by
  induction cs generalizing before with
  | nil => exact h
  | cons c r ih =>
    obtain ⟨hc, hr⟩ := not_or.1 (mt List.mem_cons.2 h)
    rw [lowerFrom, List.mem_append, not_or]
    refine ⟨?_, ih _ hr⟩
    split_ifs
    all_goals first | decide | simpa using (lowerChar_ne_paren (Ne.symm hc)).symm

theorem paren_notMem_lower (h : '(' ∉ cs) : '(' ∉ lower cs :=
  paren_notMem_lowerFrom [] h

theorem notMem_of_mem_runs (h : c ∉ cs) : ∀ w ∈ runs cs, c ∉ w := by
  induction cs with
  | nil => simp [runs]
  | cons d r ih =>
    obtain ⟨hd, hr⟩ := not_or.1 (mt List.mem_cons.2 h)
    have hrest := ih hr
    rw [runs]
    cases hruns : runs r with
    | nil =>
      rw [consWord]
      split_ifs <;> simp [hd]
    | cons w ws =>
      rw [hruns] at hrest
      obtain ⟨hw, hws⟩ := List.forall_mem_cons.1 hrest
      rw [consWord]
      split_ifs
      · exact List.forall_mem_cons.2 ⟨List.not_mem_nil, hrest⟩
      · exact List.forall_mem_cons.2 ⟨mt List.mem_cons.1 (not_or.2 ⟨hd, hw⟩), hws⟩

theorem notMem_of_mem_words (h : c ∉ cs) : ∀ w ∈ words cs, c ∉ w :=
  fun w hw => notMem_of_mem_runs h w (List.mem_filter.1 hw).1

theorem notMem_trimWith {p : Char → Bool} (h : c ∉ cs) : c ∉ trimWith p cs := by
  intro hc
  rw [trimWith, List.mem_reverse] at hc
  exact h ((List.dropWhile_suffix p).subset
    (List.mem_reverse.1 ((List.dropWhile_suffix p).subset hc)))

structure Definition.Plain (d : Definition) : Prop where
  color : ∀ w ∈ d.color, '(' ∉ w
  background : ∀ w ∈ d.background, '(' ∉ w
  link : ∀ w ∈ d.link, '(' ∉ w

theorem argument?_of_notMem (h : '(' ∉ w) (function : String) : argument? function w = none := by
  unfold argument?
  dsimp only
  split_ifs with hcall
  · have hinitial := List.isPrefixOf_iff_prefix.1 (Bool.and_eq_true_iff.1 hcall).1
    exact absurd (hinitial.subset (by simp)) h
  · rfl

theorem yields_checkColor (h : '(' ∉ w) :
    Yields (· = .unknown) (fun _ => True) (checkColor w) := by
  rw [checkColor, argument?_of_notMem h]
  split_ifs
  · trivial
  · rfl

theorem yields_word (hd : d.Plain) (h : '(' ∉ w) :
    Yields (· = .unknown) Definition.Plain (d.word w) := by
  rw [Definition.word]
  split
  · exact ⟨hd.color, hd.background, hd.link⟩
  · refine (yields_checkColor h).map fun _ _ => ⟨fun v hv => ?_, hd.background, hd.link⟩
    cases hv
    exact h

theorem yields_phrase? (hd : d.Plain) (h : '(' ∉ next) :
    ∀ made ∈ d.phrase? w next, Yields (· = .unknown) Definition.Plain made := by
  intro made hmade
  unfold Definition.phrase? at hmade
  split at hmade
  · cases hmade
    refine (yields_checkColor (paren_notMem_lower h)).map fun _ _ =>
      ⟨hd.color, fun v hv => ?_, hd.link⟩
    cases hv
    exact paren_notMem_lower h
  · cases hmade
    split
    · exact ⟨hd.color, hd.background, hd.link⟩
    · rfl
  · cases hmade
    refine ⟨hd.color, hd.background, fun v hv => ?_⟩
    cases hv
    exact h
  · cases hmade

theorem yields_read (hd : d.Plain) (h : ∀ w ∈ ws, '(' ∉ w) :
    Yields (· = .unknown) Definition.Plain (read d ws) := by
  induction d, ws using read.induct with
  | case1 d => exact hd
  | case2 d w => exact yields_word hd (paren_notMem_lower (h w List.mem_cons_self))
  | case3 d w next rest made hmade ih =>
    obtain ⟨-, hnext, hrest⟩ := List.forall_mem_cons.1 h |>.imp_right List.forall_mem_cons.1
    rw [read, hmade]
    exact (yields_phrase? hd hnext made hmade).bind fun d' hd' => ih d' hd' hrest
  | case4 d w next rest hnone ih =>
    obtain ⟨hw, hrest⟩ := List.forall_mem_cons.1 h
    rw [read, hnone]
    exact (yields_word hd (paren_notMem_lower hw)).bind fun d' hd' => ih d' hd' hrest

theorem notMem_intercalate {sep : List Char} (hsep : c ∉ sep) (h : ∀ w ∈ ws, c ∉ w) :
    c ∉ sep.intercalate ws := by
  induction ws with
  | nil => exact List.not_mem_nil
  | cons w rest ih =>
    obtain ⟨hw, hrest⟩ := List.forall_mem_cons.1 h
    cases rest with
    | nil => simpa using hw
    | cons v rest =>
      rw [List.intercalate_cons_of_ne_nil (List.cons_ne_nil _ _), List.mem_append, List.mem_append,
        not_or, not_or]
      exact ⟨⟨hw, hsep⟩, ih hrest⟩

theorem Definition.Plain.name (hd : d.Plain) : '(' ∉ d.name := by
  have hset : ∀ a ∈ Style.attributes, '(' ∉ a.1.toList ∧ '(' ∉ "not ".toList ++ a.1.toList := by
    decide
  rw [Definition.name]
  split_ifs
  · decide
  · refine notMem_intercalate (by decide) fun w hw => ?_
    simp only [List.mem_append, List.mem_flatMap, List.mem_filterMap, Option.mem_toList,
      Option.map_eq_some_iff] at hw
    obtain ((⟨a, ha, e, -, rfl⟩ | hw) | ⟨b, hb, hw⟩) | ⟨l, hl, hw⟩ := hw
    · split_ifs
      · exact (hset a ha).1
      · exact (hset a ha).2
    · exact hd.color w hw
    · rcases List.mem_cons.1 hw with rfl | hw
      · decide
      · exact List.mem_singleton.1 hw ▸ hd.background b hb
    · rcases List.mem_cons.1 hw with rfl | hw
      · decide
      · exact List.mem_singleton.1 hw ▸ hd.link l hl

theorem normalize_of_notMem {name : List Char} (h : '(' ∉ name) :
    ∃ n, normalize name = .ok n ∧ '(' ∉ n := by
  unfold normalize
  split_ifs
  · exact ⟨_, rfl, by decide⟩
  · have hread : Yields (· = .unknown) Definition.Plain (read {} (words name)) :=
      yields_read ⟨nofun, nofun, nofun⟩ (notMem_of_mem_words h)
    split
    · next d hd => exact ⟨_, rfl, (hread.of_ok hd).name⟩
    · exact ⟨_, rfl, paren_notMem_lower (notMem_trimWith h)⟩
    · next fault hfault => cases hread.of_error hfault

end EnvoySidecar.Console.Style
