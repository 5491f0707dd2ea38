import EnvoySidecar.Proofs.Yaml.Token

/-! The layout keeps faults apart from tokens: none is among the tokens that it emits, so that a
fault is the last token, and one of those that reading a token can end in. -/

namespace EnvoySidecar.Yaml

namespace Token

def IsMark (t : Token) : Prop :=
  ∀ f, t ≠ .fault f

end Token

namespace Layout

def Clean (s : Layout) : Prop :=
  ∀ t ∈ s.emitted, t.IsMark

abbrev Keeps (x : Except Fault Layout) : Prop :=
  Yields Fault.IsLexical Clean x

variable {s : Layout}

theorem Clean.emit (hs : s.Clean) {t : Token} (ht : t.IsMark) : (s.emit t).Clean :=
  fun _ hmem => (List.mem_cons.1 hmem).elim (fun h => h ▸ ht) (hs _)

theorem Clean.emitAt (hs : s.Clean) (n : Nat) {ts : List Token} (hts : ∀ t ∈ ts, t.IsMark) :
    (s.emitAt n ts).Clean := by
  intro t ht
  rcases List.mem_append.1 ht with ht | ht
  · rcases List.mem_append.1 ht with ht | ht
    · exact hs t (List.mem_of_mem_take ht)
    · exact hts t ht
  · exact hs t (List.mem_of_mem_drop ht)

theorem Clean.close (hs : s.Clean) (column : Option Nat) : (s.close column).Clean := by
  unfold Layout.close
  split
  · exact hs
  · intro t ht
    rcases List.mem_append.1 ht with ht | ht
    · rw [List.eq_of_mem_replicate ht]
      rintro f ⟨⟩
    · exact hs t ht

theorem lexical_refresh_level (p : Position) (l : Level) : Lexical (Level.refresh p l) := by
  unfold Level.refresh
  split
  · exact .ok _
  · exact .ite (.ok _) (.ite (Fault.IsLexical.form _) (.ok _))

theorem keeps_refresh (hs : s.Clean) : Keeps s.refresh :=
  Yields.bind (lexical_refresh_level _ _) fun _ _ =>
    Yields.bind (Lexical.mapM (lexical_refresh_level _) _) fun _ _ => hs

theorem keeps_dropKey (hs : s.Clean) : Keeps s.dropKey := by
  unfold Layout.dropKey
  split
  · exact hs
  · exact .ite (fun _ => Fault.IsLexical.form _) fun _ => hs

theorem keeps_saveKey (hs : s.Clean) : Keeps s.saveKey :=
  .ite (fun _ => hs) fun _ => (keeps_dropKey hs).bind fun _ h => h

theorem keeps_toNext (hs : s.Clean) : Keeps s.toNext :=
  Yields.bind (keeps_refresh (s := { s with cursor := _, keyAllowed := _ }) hs)
    fun _ h => Clean.close h _

theorem keeps_closeAll (hs : s.Clean) : Keeps s.closeAll :=
  (keeps_dropKey (hs.close none)).bind fun _ h => h

theorem keeps_directive (hs : s.Clean) : Keeps s.directive :=
  (keeps_closeAll hs).bind fun _ h => Yields.bind (lexical_readDirective _ _) fun _ _ =>
    Clean.emit h (by rintro f ⟨⟩)

theorem keeps_marker (hs : s.Clean) {t : Token} (ht : t.IsMark) : Keeps (s.marker t) :=
  (keeps_closeAll hs).bind fun _ h => Clean.emit h ht

theorem keeps_openFlow (hs : s.Clean) (b : Bracket) : Keeps (s.openFlow b) :=
  (keeps_saveKey hs).bind fun _ h => Clean.emit h (by cases b <;> rintro f ⟨⟩)

theorem keeps_closeFlow (hs : s.Clean) (b : Bracket) : Keeps (s.closeFlow b) := by
  refine (keeps_dropKey hs).bind fun s h => ?_
  dsimp only
  split <;> exact Clean.emit h (by cases b <;> rintro f ⟨⟩)

theorem keeps_separator (hs : s.Clean) : Keeps s.separator :=
  (keeps_dropKey hs).bind fun _ h => Clean.emit h (by rintro f ⟨⟩)

theorem keeps_openBlock (hs : s.Clean) {t : Token} (ht : t.IsMark) : Keeps (s.openBlock t) :=
  .ite (fun _ => hs) fun _ => .ite (fun _ => Fault.IsLexical.form _) fun _ =>
    .ite (fun _ => Clean.emit hs ht) fun _ => hs

theorem keeps_entry (hs : s.Clean) : Keeps s.entry :=
  (keeps_openBlock hs (by rintro f ⟨⟩)).bind fun _ h => (keeps_dropKey h).bind fun _ h =>
    Clean.emit h (by rintro f ⟨⟩)

theorem keeps_explicitKey (hs : s.Clean) : Keeps s.explicitKey :=
  (keeps_openBlock hs (by rintro f ⟨⟩)).bind fun _ h => (keeps_dropKey h).bind fun _ h =>
    Clean.emit h (by rintro f ⟨⟩)

theorem Clean.settleKey (hs : s.Clean) (key : SavedKey) : (s.settleKey key).Clean := by
  unfold Layout.settleKey
  dsimp only
  split
  · exact Clean.emitAt hs _ (by simp [Token.IsMark])
  · exact Clean.emitAt hs _ (by simp [Token.IsMark])

theorem keeps_value (hs : s.Clean) : Keeps s.value := by
  unfold Layout.value
  split
  · next key _ => exact Clean.emit (hs.settleKey key) (by rintro f ⟨⟩)
  · exact (keeps_openBlock hs (by rintro f ⟨⟩)).bind fun _ h => (keeps_dropKey h).bind fun _ h =>
      Clean.emit h (by rintro f ⟨⟩)

theorem keeps_plain (hs : s.Clean) : Keeps s.plain :=
  (keeps_saveKey hs).bind fun _ h => Clean.emit h (by rintro f ⟨⟩)

theorem keeps_block (hs : s.Clean) (folded : Bool) : Keeps (s.block folded) :=
  (keeps_dropKey hs).bind fun _ h => Yields.bind (Block.lexical_read _ _ _) fun _ _ =>
    Clean.emit h (by rintro f ⟨⟩)

abbrev Marks (x : Except Fault (Token × Cursor)) : Prop :=
  Yields Fault.IsLexical (fun p => p.1.IsMark) x

theorem keeps_keyed (hs : s.Clean) {read : Reader Token} (hread : ∀ k, Marks (read k)) :
    Keeps (s.keyed read) :=
  (keeps_saveKey hs).bind fun _ h => (hread _).bind fun _ ht => Clean.emit h ht

theorem marks_readQuoted (style : Quoted.Style) (k : Cursor) : Marks (readQuoted style k) :=
  Yields.bind (Quoted.lexical_read style k) fun _ _ => by rintro f ⟨⟩

theorem marks_readNamed {make : String → Token} (hmake : ∀ name, (make name).IsMark)
    (k : Cursor) : Marks (readNamed make k) :=
  Yields.bind (lexical_readAnchorName _) fun _ _ => hmake _

theorem marks_readTagged (v : Version) (k : Cursor) : Marks (readTagged v k) :=
  Yields.bind (lexical_readTag v k) fun _ _ => by rintro f ⟨⟩

theorem keeps_token (hs : s.Clean) (held : Bool) (c : Char) (r : List Char) :
    Keeps (s.token held c r) := by
  unfold Layout.token
  refine .ite (fun _ => keeps_directive hs) fun _ => .ite (fun _ => ?_) fun _ =>
    .ite (fun _ => keeps_entry hs) fun _ => .ite (fun _ => keeps_explicitKey hs) fun _ =>
    .ite (fun _ => keeps_value hs) fun _ => ?_
  · exact keeps_marker hs (by split <;> rintro f ⟨⟩)
  · split
    · exact keeps_openFlow hs _
    · exact keeps_openFlow hs _
    · exact keeps_closeFlow hs _
    · exact keeps_closeFlow hs _
    · exact keeps_separator hs
    · exact keeps_keyed hs (marks_readNamed fun _ => by rintro f ⟨⟩)
    · exact keeps_keyed hs (marks_readNamed fun _ => by rintro f ⟨⟩)
    · exact keeps_keyed hs (marks_readTagged _)
    · exact keeps_keyed hs (marks_readQuoted _)
    · exact keeps_keyed hs (marks_readQuoted _)
    · exact .ite (fun _ => keeps_block hs _) fun _ =>
        .ite (fun _ => keeps_plain hs) fun _ => Fault.IsLexical.form _

theorem keeps_finish (hs : s.Clean) : Keeps s.finish :=
  (keeps_closeAll hs).bind fun _ h => Clean.emit h (by rintro f ⟨⟩)

theorem isLexical_of_mem_end (hs : s.Clean) {e f : Fault} (he : e.IsLexical)
    (hf : .fault f ∈ s.emitted.reverse ++ [.fault e]) : f.IsLexical := by
  rcases List.mem_append.1 hf with hmem | hmem
  · exact absurd rfl (hs _ (List.mem_reverse.1 hmem) f)
  · obtain rfl : f = e := by simpa using hmem
    exact he

theorem keeps_next (hs : s.Clean) (held : Bool) :
    Yields Fault.IsLexical (fun p : Layout × Bool => p.1.Clean) (do
      let s ← s.toNext
      match s.cursor.rest with
      | [] => return (← s.finish, true)
      | c :: r => return (← s.token held c r, false)) := by
  refine (keeps_toNext hs).bind fun s h => ?_
  split
  · exact (keeps_finish h).bind fun _ h => h
  · exact (keeps_token h _ _ _).bind fun _ h => h

theorem isLexical_of_mem_run (fuel : Nat) (hs : s.Clean) {f : Fault} (hf : .fault f ∈ run fuel s) :
    f.IsLexical := by
  induction fuel generalizing s with
  | zero => exact isLexical_of_mem_end hs (.form _) hf
  | succ fuel ih =>
    have hnext := keeps_next hs s.mayBeKey
    rw [run] at hf
    split at hf
    · next e heq => exact isLexical_of_mem_end hs (hnext.of_error heq) hf
    · next s' heq => exact absurd rfl (hnext.of_ok heq _ (List.mem_reverse.1 hf) f)
    · next s' heq => exact ih (hnext.of_ok heq) hf

end Layout

theorem isLexical_of_mem_tokens {cs : List Char} {f : Fault} (h : .fault f ∈ tokens cs) :
    f.IsLexical :=
  Layout.isLexical_of_mem_run _ (by simp [Layout.Clean]) h

end EnvoySidecar.Yaml
