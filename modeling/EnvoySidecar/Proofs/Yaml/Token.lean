import EnvoySidecar.Proofs.Results
import EnvoySidecar.Yaml.Layout

/-! Faults that the tokens of a text can hold. Most are of form; the others are numbers of a version
that are too long, and escapes beyond the last character. -/

namespace EnvoySidecar.Yaml

inductive Fault.IsLexical : Fault → Prop
  | form (reason : String) : IsLexical (.malformed reason)
  | longVersion {digits : Nat} : Text.digitLimit < digits → IsLexical (.numeral (.long digits))
  | characterCode : IsLexical .characterCode

abbrev Lexical {α : Type} (x : Except Fault α) : Prop :=
  Yields Fault.IsLexical (fun _ => True) x

namespace Lexical

variable {α β : Type}

protected theorem ok (a : α) : Lexical (.ok a : Except Fault α) :=
  trivial

protected theorem malformed (reason : String) :
    Lexical (.error (.malformed reason) : Except Fault α) :=
  Fault.IsLexical.form reason

protected theorem bind {x : Except Fault α} {f : α → Except Fault β} (hx : Lexical x)
    (hf : ∀ a, Lexical (f a)) : Lexical (x >>= f) :=
  Yields.bind hx fun a _ => hf a

protected theorem ite {c : Prop} [Decidable c] {x y : Except Fault α} (hx : Lexical x)
    (hy : Lexical y) : Lexical (if c then x else y) :=
  Yields.ite (fun _ => hx) fun _ => hy

protected theorem mapM {f : α → Except Fault β} (hf : ∀ a, Lexical (f a)) (as : List α) :
    Lexical (as.mapM f) :=
  (Yields.mapM fun a _ => hf a).mono fun _ _ => trivial

protected theorem check {c : Prop} [Decidable c] {reason : String}
    {f : Unit → Except Fault β} (hf : Lexical (f ())) :
    Lexical (if c then .error (.malformed reason) >>= f else f ()) :=
  .ite (.malformed reason) hf

end Lexical

theorem lexical_readAnchorName (k : Cursor) : Lexical (readAnchorName k) :=
  .ite (.malformed _) (.ite (.malformed _) (.ok _))

theorem lexical_readOctets (fuel : Nat) (k : Cursor) : Lexical (readOctets fuel k) := by
  induction fuel generalizing k with
  | zero => exact .ok _
  | succ fuel ih =>
    unfold readOctets
    split
    · exact .ite ((ih _).bind fun _ => .ok _) (.malformed _)
    · exact .malformed _
    · exact .ok _

theorem lexical_readEscapes (k : Cursor) : Lexical (readEscapes k) := by
  refine (lexical_readOctets _ k).bind fun s => ?_
  split
  · exact .ok _
  · exact .malformed _

theorem lexical_readUriPieces (v : Version) (fuel : Nat) (k : Cursor) :
    Lexical (readUriPieces v fuel k) := by
  induction fuel generalizing k with
  | zero => exact .ok _
  | succ fuel ih =>
    unfold readUriPieces
    exact .ite ((lexical_readEscapes _).bind fun _ => (ih _).bind fun _ => .ok _) (.ok _)

theorem lexical_readUri (v : Version) (k : Cursor) : Lexical (readUri v k) :=
  (lexical_readUriPieces v _ k).bind fun _ => .ite (.malformed _) (.ok _)

theorem lexical_readHandle (k : Cursor) : Lexical (readHandle k) := by
  unfold readHandle
  split
  · exact .ok _
  · exact .ite (.ok _) (.malformed _)
  · exact .malformed _

theorem lexical_expectSpace {α : Type} (s : α × Cursor) : Lexical (expectSpace s) :=
  .ite (.ok _) (.malformed _)

theorem lexical_readTag (v : Version) (k : Cursor) : Lexical (readTag v k) := by
  unfold readTag
  split
  · exact (lexical_readUri v _).bind fun s => .ite (lexical_expectSpace _) (.malformed _)
  · have hsuffix : ∀ handle : String × Cursor,
        Lexical (readUri v handle.2 >>= fun s => expectSpace ((some handle.1, s.1), s.2)) :=
      fun handle => (lexical_readUri v _).bind fun s => lexical_expectSpace _
    exact .ite (lexical_expectSpace _)
      (.ite ((lexical_readHandle k).bind hsuffix) (hsuffix _))
  · exact .malformed _

theorem lexical_readNumber (k : Cursor) : Lexical (readNumber k) :=
  .ite (.malformed _) (Yields.ite (fun h => .longVersion h) fun _ => trivial)

theorem lexical_readVersion (k : Cursor) : Lexical (readVersion k) :=
  (lexical_readNumber _).bind fun _ =>
    .check ((lexical_readNumber _).bind fun _ => lexical_expectSpace _)

theorem lexical_readTagDirective (v : Version) (k : Cursor) : Lexical (readTagDirective v k) :=
  (lexical_readHandle _).bind fun _ =>
    .check ((lexical_readUri v _).bind fun _ => lexical_expectSpace _)

theorem lexical_readLineRest (k : Cursor) : Lexical (readLineRest k) := by
  unfold readLineRest
  dsimp only
  split
  · exact .ok _
  · exact .ite (.ok _) (.malformed _)

theorem lexical_readDirective (v : Version) (k : Cursor) : Lexical (readDirective v k) := by
  unfold readDirective
  refine .check ((lexical_expectSpace _).bind fun name => ?_)
  have hrest : ∀ d : Directive × Cursor,
      Lexical (readLineRest d.2 >>= fun rest => .ok (d.1, rest.2)) :=
    fun d => (lexical_readLineRest d.2).bind fun _ => .ok _
  split
  · exact (lexical_readVersion _).bind hrest
  · exact (lexical_readTagDirective v _).bind hrest
  · exact hrest _

namespace Block

theorem lexical_readIncrement (k : Cursor) : Lexical (readIncrement k) := by
  unfold readIncrement
  split
  · exact .ite (.malformed _) (.ite (.ok _) (.ok _))
  · exact .ok _

theorem lexical_readHeader (k : Cursor) : Lexical (readHeader k) :=
  (lexical_readIncrement _).bind fun _ => (lexical_expectSpace _).bind fun _ =>
    (lexical_readLineRest _).bind fun _ => .ok _

theorem lexical_read (folded : Bool) (least : Nat) (k : Cursor) : Lexical (read folded least k) := by
  refine (lexical_readHeader k).bind fun header => ?_
  dsimp only
  split
  · exact .ok _
  · exact .ite (.malformed _) (.ok _)

end Block

namespace Quoted

theorem lexical_characterOf (code : Nat) : Lexical (characterOf code) := by
  unfold characterOf
  by_cases hcode : 0x10FFFF < code
  · rw [if_pos hcode]
    exact Fault.IsLexical.characterCode
  · rw [if_neg hcode]
    by_cases hvalid : code.isValidChar
    · rw [dif_pos hvalid]
      exact .ok _
    · rw [dif_neg hvalid]
      exact .malformed _

theorem lexical_readEscape (k : Cursor) : Lexical (readEscape k) := by
  unfold readEscape
  split
  · exact .malformed _
  · split
    · exact .ok _
    · exact .ite ((lexical_characterOf _).bind fun _ => .ok _) (.malformed _)
    · exact .malformed _

theorem lexical_readBreaks (fuel : Nat) (k : Cursor) : Lexical (readBreaks fuel k) := by
  induction fuel generalizing k with
  | zero => exact .ok _
  | succ fuel ih =>
    unfold readBreaks
    refine .ite (.malformed _) ?_
    dsimp only
    split
    · exact .ite ((ih _).bind fun _ => .ok _) (.ok _)
    · exact .ok _

theorem lexical_readGap (k : Cursor) : Lexical (readGap k) := by
  unfold readGap
  dsimp only
  split
  · exact .malformed _
  · exact .ite ((lexical_readBreaks _ _).bind fun _ => .ok _) (.ok _)

theorem lexical_readBody (style : Style) (fuel : Nat) (k : Cursor) :
    Lexical (readBody style fuel k) := by
  induction fuel generalizing k with
  | zero => exact .malformed _
  | succ fuel ih =>
    unfold readBody
    dsimp only
    split
    · exact .malformed _
    · refine .ite ?_ (.ite (.ite ?_ ?_) (.ite ?_ (.ok _)))
      · exact (lexical_readGap _).bind fun _ => (ih _).bind fun _ => .ok _
      · exact (lexical_readBreaks _ _).bind fun _ => (ih _).bind fun _ => .ok _
      · exact (lexical_readEscape _).bind fun _ => (ih _).bind fun _ => .ok _
      · exact (ih _).bind fun _ => .ok _

theorem lexical_read (style : Style) (k : Cursor) : Lexical (read style k) :=
  (lexical_readBody style _ _).bind fun _ => .ok _

end Quoted

end EnvoySidecar.Yaml
