import MacConsent.Proofs.Document.Walk
import MacConsent.Proofs.Markup.Cuts

/-!
# MacConsent.Proofs.Document.Pieces

What a walk makes of the pieces of a written document, whatever stands behind
them: text and references are taken up one character at a time
(`readFrom_escape`), a start tag enters an element (`readFrom_open`), an end tag
leaves it (`readFrom_close`).
-/

namespace MacConsent.Document

open Markup

namespace Walk

/-- The walk with more text. -/
def push (w : Walk) (text : List Char) : Walk :=
  { w with reader := w.reader.push (String.ofList text) }

/-- The walk inside one more element. -/
def enter (w : Walk) (name : String) : Walk := ⟨name :: w.opened, w.reader.enter name⟩

@[simp] theorem push_nil (w : Walk) : w.push [] = w := by
  simp [push, Reader.push]

@[simp] theorem push_push (w : Walk) (xs ys : List Char) : (w.push xs).push ys = w.push (xs ++ ys) := by
  simp [push, Reader.push, String.append_assoc]

/-- Text before a start tag is forgotten. -/
@[simp] theorem enter_push (w : Walk) (text : List Char) (name : String) :
    (w.push text).enter name = w.enter name := rfl

/-! ## text -/

/-- Text is taken up one character at a time, although a token holds all of a run. -/
theorem readFrom_plain {c : Char} (h : Token.isPlain c = true) (w : Walk) (rest : List Char) :
    w.readFrom (c :: rest) = (w.push [c]).readFrom rest := by
  have hcut (d : Char) (cs : List Char) (hd : Token.isPlain d = true) (v : Walk) :
      v.readFrom (d :: cs) =
        (v.push (d :: cs.takeWhile Token.isPlain)).readFrom (cs.dropWhile Token.isPlain) := by
    have hlt : d ≠ '<' := by rintro rfl; exact absurd hd (by decide)
    have hamp : d ≠ '&' := by rintro rfl; exact absurd hd (by decide)
    rw [readFrom_cons, Token.cut, if_neg hlt, if_neg hamp]
    rfl
  rw [hcut c rest h]
  cases rest with
  | nil => rfl
  | cons d ds =>
      cases hd : Token.isPlain d with
      | false => simp [hd]
      | true => rw [hcut d ds hd (w.push [c]), push_push]; simp [hd]

theorem readFrom_text {cs : List Char} (h : ∀ c ∈ cs, Token.isPlain c = true) (w : Walk)
    (rest : List Char) : w.readFrom (cs ++ rest) = (w.push cs).readFrom rest := by
  induction cs generalizing w with
  | nil => simp
  | cons c cs ih =>
      rw [List.cons_append, readFrom_plain (h c List.mem_cons_self),
        ih (fun d hd => h d (List.mem_cons_of_mem c hd)), push_push]
      rfl

/-- A reference is taken up as what it stands for. -/
theorem readFrom_ref {name : List Char} (h : ∀ d ∈ name, d != ';' && Token.isPlain d) (w : Walk)
    (rest : List Char) :
    w.readFrom ('&' :: name ++ ';' :: rest) =
      (w.reader.step (.reference name)).bind fun r => (Walk.mk w.opened r).readFrom rest := by
  rw [List.cons_append, readFrom_cons, Token.cut_reference h]
  simp only [step, Event.ofToken]
  cases w.reader.step (.reference name) <;> rfl

/-- A reference by one of the five names stands for its character. -/
theorem readFrom_reference {name : List Char} {c : Char}
    (hplain : ∀ d ∈ name, d != ';' && Token.isPlain d) (hsharp : name.head? ≠ some '#')
    (hname : charOfName? name = some c) (w : Walk) (rest : List Char) :
    w.readFrom ('&' :: name ++ ';' :: rest) = (w.push [c]).readFrom rest := by
  have hresolve : resolve name = .ok c := by
    unfold resolve
    split
    · exact absurd rfl hsharp
    · rw [hname]
  have hc : c.toString = String.ofList [c] := String.singleton_eq_ofList
  rw [readFrom_ref hplain, Reader.step, hresolve, Except.map, hc]
  rfl

theorem readFrom_escapeChar (c : Char) (w : Walk) (rest : List Char) :
    w.readFrom (escapeChar c ++ rest) = (w.push [c]).readFrom rest := by
  obtain ⟨hplain, hc⟩ | ⟨name, hc, hplain, hsharp, hname⟩ := Token.escapeChar_cases c
  · rw [hc]
    exact readFrom_plain hplain w rest
  · rw [hc, List.append_assoc, List.singleton_append]
    exact readFrom_reference hplain hsharp hname w rest

/-- **A value between tags is taken up as it is**, with its references resolved. -/
theorem readFrom_escape (value : List Char) (w : Walk) (rest : List Char) :
    w.readFrom (escape value ++ rest) = (w.push value).readFrom rest := by
  induction value generalizing w with
  | nil => simp [escape]
  | cons c cs ih =>
      have hcons : escape (c :: cs) = escapeChar c ++ escape cs := List.flatMap_cons
      rw [hcons, List.append_assoc, readFrom_escapeChar, ih, push_push]
      rfl

/-! ## tags -/

/-- **A start tag opens an element**, which the reader enters under its local name. -/
theorem readFrom_open {name : String} {attributes : List Char} (h : IsName name)
    (hattributes : IsAttributes attributes) (hslash : attributes.getLast? ≠ some '/') (w : Walk)
    (rest : List Char) :
    w.readFrom ('<' :: (name.toList ++ attributes ++ '>' :: rest)) =
      (Walk.mk (name :: w.opened) (w.reader.enter (Event.localName name))).readFrom rest := by
  have hstep : w.step (.startTag (name.toList ++ attributes)) =
      .ok ⟨name :: w.opened, w.reader.enter (Event.localName name)⟩ := by
    simp only [step, Event.ofToken, Token.tagName_append h hattributes, Reader.step]
  rw [readFrom_cons, Token.cut_tag h hattributes.inTag, if_neg hslash]
  simp only [hstep]

/-- **An end tag closes the innermost element**, if it carries its name. -/
theorem readFrom_close {name : String} {gap : List Char} {outer : List String} (h : IsName name)
    (hgap : ∀ c ∈ gap, Token.isTagBlank c = true) {w : Walk} (hw : w.opened = name :: outer)
    (rest : List Char) :
    w.readFrom ('<' :: '/' :: (name.toList ++ gap ++ '>' :: rest)) =
      (w.reader.step (.closed name)).bind fun r => (Walk.mk outer r).readFrom rest := by
  rw [readFrom_cons, Token.cut_end h hgap]
  simp only [step, hw, Event.ofToken, Token.endName_append h hgap, if_true]
  cases w.reader.step (.closed name) <;> rfl

/-- The start tags that a writer puts down enter elements. -/
theorem readFrom_startTag {name : String} {space : Option String} (h : IsTagName name)
    (hs : IsSpaceName space) (w : Walk) (rest : List Char) :
    w.readFrom (Row.startTag name space ++ rest) = (w.enter name).readFrom rest := by
  have htext : Row.startTag name space ++ rest =
      '<' :: (name.toList ++ Row.spaceAttribute space ++ '>' :: rest) := by
    simp [Row.startTag]
  rw [htext, readFrom_open h.isName (isAttributes_spaceAttribute hs)
    (getLast?_spaceAttribute_ne space), localName_of_isTagName h]
  rfl

/-- The end tags that a writer puts down leave the innermost element. -/
theorem readFrom_endTag {name : String} {outer : List String} (h : IsTagName name) {w : Walk}
    (hw : w.opened = name :: outer) (rest : List Char) :
    w.readFrom (Row.endTag name ++ rest) =
      match w.reader.leave with
      | .error f => .error (.content f)
      | .ok r => (Walk.mk outer r).readFrom rest := by
  have htext : Row.endTag name ++ rest = '<' :: '/' :: (name.toList ++ [] ++ '>' :: rest) := by
    simp [Row.endTag]
  rw [htext, readFrom_close h.isName (by simp) hw, Reader.step]
  cases w.reader.leave <;> rfl

/-- What carries no data changes nothing. -/
theorem readFrom_ignored {cs rest : List Char} (h : Token.cut '<' cs = .ok (.ignored, rest))
    (w : Walk) : w.readFrom ('<' :: cs) = w.readFrom rest := by
  rw [readFrom_cons, h]
  rfl

theorem readFrom_declaration (w : Walk) (rest : List Char) :
    w.readFrom (declaration ++ rest) = w.readFrom rest := by
  obtain ⟨cs, htext, hcut⟩ := Token.cut_declaration rest
  rw [htext, readFrom_ignored hcut]

end Walk

end MacConsent.Document
