import Mathlib.Logic.Function.Basic
import EnvoySidecar.Proofs.Text.Digits
import EnvoySidecar.Proofs.Text.Quoted
import EnvoySidecar.Proofs.Text.Scanning

/-! Quoted texts read back. Behind a backslash stand a quote, another backslash, the letter of a
line end or of a tab, or the hexadecimal digits of a code point; every other character stands for
itself. What is written for a character is read as that character whatever follows it, so that
different texts have different quoted forms, also behind words that hold no quote. -/

namespace EnvoySidecar.Text

namespace Quoted

def ofLetter? : Char → Option Char
  | '\\' => some '\\'
  | '\'' => some '\''
  | '"' => some '"'
  | 'n' => some '\n'
  | 'r' => some '\r'
  | 't' => some '\t'
  | _ => none

def codeWidth? : Char → Option Nat
  | 'x' => some 2
  | 'u' => some 4
  | 'U' => some 8
  | _ => none

def ofCode? (n : Nat) : Option Char :=
  if h : n.isValidChar then some (Char.ofNatAux n h) else none

def readEscape? : List Char → Option (Char × List Char)
  | [] => none
  | letter :: r =>
    match ofLetter? letter, codeWidth? letter with
    | some c, _ => some (c, r)
    | none, some width =>
      let ds := r.take width
      if ds.length = width ∧ ds.all isHexDigit then
        (ofCode? (ofDigits 16 ds)).map (·, r.drop width)
      else none
    | none, none => none

def readChar? (quote : Char) : List Char → Option (Char × List Char)
  | [] => none
  | c :: r => if c = '\\' then readEscape? r else if c = quote then none else some (c, r)

variable {quote letter c : Char} {k : Nat} {cs r : List Char}

theorem length_of_readEscape? (h : readEscape? cs = some (c, r)) : r.length < cs.length := by
  cases cs with
  | nil => cases h
  | cons letter cs =>
    simp only [readEscape?] at h
    split at h
    · cases h
      exact Nat.lt_succ_self _
    · split at h
      · obtain ⟨_, -, hr⟩ := Option.map_eq_some_iff.1 h
        cases hr
        rw [List.length_drop, List.length_cons]
        omega
      · cases h
    · cases h

theorem length_of_readChar? (h : readChar? quote cs = some (c, r)) : r.length < cs.length := by
  cases cs with
  | nil => cases h
  | cons d cs =>
    rw [readChar?] at h
    split_ifs at h
    · exact (length_of_readEscape? h).trans (Nat.lt_succ_self _)
    · cases h
      exact Nat.lt_succ_self _

def readBody? (quote : Char) (cs : List Char) : Option (List Char) :=
  match _h : readChar? quote cs with
  | some (c, r) => (readBody? quote r).map (c :: ·)
  | none => if cs = [quote] then some [] else none
termination_by cs.length
decreasing_by exact length_of_readChar? _h

def read? : List Char → Option (List Char)
  | [] => none
  | quote :: r => if quote = '\'' ∨ quote = '"' then readBody? quote r else none

/-! What is written is read -/

theorem ofCode?_toNat (c : Char) : ofCode? c.toNat = some c :=
  dif_pos c.valid

theorem readChar?_escape : readChar? quote ('\\' :: r) = readEscape? r := by
  rw [readChar?, if_pos rfl]

theorem readChar?_letter (h : ofLetter? letter = some c) :
    readChar? quote (['\\', letter] ++ r) = some (c, r) := by
  rw [List.cons_append, readChar?_escape, List.singleton_append]
  simp only [readEscape?, h]

theorem readChar?_code (hletter : ofLetter? letter = none) (hwidth : codeWidth? letter = some k)
    (hpos : 0 < k) (hcode : c.toNat < 16 ^ k) :
    readChar? quote ('\\' :: letter :: hexDigits k c.toNat ++ r) = some (c, r) := by
  have hlength := length_hexDigits hpos hcode
  have hdigits : (hexDigits k c.toNat).all isHexDigit = true :=
    List.all_eq_true.2 (forall_mem_hexDigits (by decide) _ _)
  have htake : (hexDigits k c.toNat ++ r).take k = hexDigits k c.toNat := List.take_left' hlength
  have hdrop : (hexDigits k c.toNat ++ r).drop k = r := List.drop_left' hlength
  rw [List.cons_append, readChar?_escape, List.cons_append]
  simp only [readEscape?, hletter, hwidth, htake, hdrop]
  rw [if_pos ⟨hlength, hdigits⟩, ofDigits_hexDigits, ofCode?_toNat, Option.map_some]

theorem readChar?_escapeCode : readChar? quote (escapeCode c ++ r) = some (c, r) := by
  have hvalid : c.toNat.isValidChar := c.valid
  unfold Nat.isValidChar at hvalid
  unfold escapeCode
  dsimp only
  split_ifs with hbyte hshort
  · exact readChar?_code rfl rfl (by decide) (by omega)
  · exact readChar?_code rfl rfl (by decide) (by omega)
  · exact readChar?_code rfl rfl (by decide) (by omega)

theorem readChar?_writeChar (hquote : quote = '\'' ∨ quote = '"') :
    readChar? quote (writeChar quote c ++ r) = some (c, r) := by
  unfold writeChar
  split_ifs with hspecial hfeed hreturn htab
  · refine readChar?_letter ?_
    rw [Bool.or_eq_true, decide_eq_true_eq, decide_eq_true_eq] at hspecial
    rcases hspecial with rfl | rfl
    · rcases hquote with rfl | rfl <;> rfl
    · rfl
  · subst hfeed
    exact readChar?_letter rfl
  · subst hreturn
    exact readChar?_letter rfl
  · subst htab
    exact readChar?_letter rfl
  · simp only [Bool.or_eq_true, decide_eq_true_eq, not_or] at hspecial
    rw [List.singleton_append, readChar?, if_neg hspecial.2, if_neg hspecial.1]
  · exact readChar?_escapeCode

theorem readBody?_of_readChar? (h : readChar? quote cs = some (c, r)) :
    readBody? quote cs = (readBody? quote r).map (c :: ·) := by
  rw [readBody?]
  -- the match remembers what was read, so that it cannot be rewritten in place
  split
  · next hread =>
    rw [h] at hread
    cases hread
    rfl
  · next hread =>
    rw [h] at hread
    cases hread

theorem readBody?_quote (hquote : quote ≠ '\\') : readBody? quote [quote] = some [] := by
  have hnone : readChar? quote [quote] = none := by
    rw [readChar?, if_neg hquote, if_pos rfl]
  rw [readBody?]
  split
  · next hread =>
    rw [hnone] at hread
    cases hread
  · exact if_pos rfl

theorem quoteFor_cases (cs : List Char) : quoteFor cs = '\'' ∨ quoteFor cs = '"' := by
  unfold quoteFor
  split_ifs
  · exact .inr rfl
  · exact .inl rfl

theorem readBody?_written (hquote : quote = '\'' ∨ quote = '"') (cs : List Char) :
    readBody? quote (cs.flatMap (writeChar quote) ++ [quote]) = some cs := by
  induction cs with
  | nil => exact readBody?_quote (by rcases hquote with rfl | rfl <;> decide)
  | cons c cs ih =>
    rw [List.flatMap_cons, List.append_assoc, readBody?_of_readChar? (readChar?_writeChar hquote),
      ih, Option.map_some]

theorem read?_write (cs : List Char) : read? (write cs) = some cs := by
  have hquote := quoteFor_cases cs
  exact (if_pos hquote).trans (readBody?_written hquote cs)

end Quoted

/-- The text that a quoted text stands for; nothing for a text that is not quoted. -/
def unquoted? (s : String) : Option String :=
  (Quoted.read? s.toList).map String.ofList

theorem unquoted?_quoted (s : String) : unquoted? (quoted s) = some s := by
  rw [unquoted?, quoted, String.toList_ofList, Quoted.read?_write, Option.map_some,
    String.ofList_toList]

theorem quoted_injective : Function.Injective quoted := by
  intro s s' h
  have hread := unquoted?_quoted s
  rw [h, unquoted?_quoted] at hread
  exact (Option.some.inj hread).symm

def isOrdinary (c : Char) : Bool :=
  isPrintable c && c != '\'' && c != '\\'

theorem quoted_of_ordinary {s : String} (h : s.toList.all isOrdinary) :
    quoted s = "'" ++ s ++ "'" := by
  have hordinary : ∀ c ∈ s.toList, isPrintable c = true ∧ c ≠ '\'' ∧ c ≠ '\\' := by
    simpa [isOrdinary, and_assoc] using h
  have hquote : Quoted.quoteFor s.toList = '\'' := by
    have hnone : s.toList.contains '\'' = false := by
      rw [List.contains_eq_mem, decide_eq_false_iff_not]
      exact fun hmem => (hordinary _ hmem).2.1 rfl
    rw [Quoted.quoteFor, hnone]
    rfl
  have hchar : ∀ c ∈ s.toList, Quoted.writeChar '\'' c = [c] := by
    intro c hc
    obtain ⟨hprint, hmark, hslash⟩ := hordinary c hc
    have hne {d : Char} (hd : isPrintable d = false) : c ≠ d := by
      rintro rfl
      exact absurd hprint (by rw [hd]; decide)
    unfold Quoted.writeChar
    rw [if_neg (by simp [hmark, hslash]), if_neg (hne rfl), if_neg (hne rfl), if_neg (hne rfl),
      if_pos hprint]
  apply String.toList_inj.1
  rw [quoted, String.toList_ofList, Quoted.write, hquote, List.flatMap_congr hchar]
  simp

/-! Quoted texts behind words -/

def isQuote (c : Char) : Bool :=
  c = '\'' || c = '"'

theorem append_quoted_inj {words words' s s' : String} (h : words.toList.all (!isQuote ·))
    (h' : words'.toList.all (!isQuote ·)) :
    words ++ quoted s = words' ++ quoted s' ↔ words = words' ∧ s = s' := by
  have hstop (t : String) : StopsAt (!isQuote ·) (quoted t).toList := by
    rw [quoted, String.toList_ofList]
    rcases Quoted.quoteFor_cases t.toList with hquote | hquote <;>
      exact stopsAt_cons (by rw [hquote]; rfl)
  constructor
  · -- both texts are cut at their first quote, which ends the words
    intro heq
    have hlist : words.toList ++ (quoted s).toList = words'.toList ++ (quoted s').toList := by
      rw [← String.toList_append, ← String.toList_append, heq]
    have hwords := congrArg (List.takeWhile (!isQuote ·)) hlist
    rw [takeWhile_append h (hstop s), takeWhile_append h' (hstop s')] at hwords
    rw [hwords] at hlist
    exact ⟨String.toList_inj.1 hwords,
      quoted_injective (String.toList_inj.1 (List.append_cancel_left hlist))⟩
  · rintro ⟨rfl, rfl⟩
    rfl

end EnvoySidecar.Text
