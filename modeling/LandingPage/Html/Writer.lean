import LandingPage.Html.Basic
import LandingPage.Html.Escape

/-!
The text of a document. A start tag holds the attributes in order and last the class text, each value
escaped between double quotes; every element but a void one has an end tag; nothing is added between
the parts, and actions are not written. Joining documents joins their texts.
-/
namespace LandingPage

def writeAttr (name value : String) : List Char :=
  ' ' :: (name.toList ++ '=' :: '"' :: (Html.escapeValue value.toList ++ ['"']))

def Attr.write (attr : Attr) : List Char :=
  writeAttr attr.name.name attr.value

def writeClasses : Option String → List Char
  | none => []
  | some classes => writeAttr "class" classes

def Tag.writeStart (tag : Tag) (attrs : List Attr) (classes : Option String) : List Char :=
  '<' :: (tag.name.toList ++ (attrs.flatMap Attr.write ++ (writeClasses classes ++ ['>'])))

def Tag.writeEnd (tag : Tag) : List Char :=
  if tag.isVoid then [] else '<' :: '/' :: (tag.name.toList ++ ['>'])

namespace Html

variable {α : Type}

def write : Html α → List Char
  | empty => []
  | text content => escapeText content.toList
  | element tag attrs classes _ body =>
    tag.writeStart attrs classes ++ (body.write ++ tag.writeEnd)
  | append first second => first.write ++ second.write

def render (h : Html α) : String :=
  String.ofList h.write

theorem write_join (hs : List (Html α)) : (join hs).write = hs.flatMap write := by
  induction hs with
  | nil => rfl
  | cons h hs ih => simp [join, write, ih]

theorem toList_render (h : Html α) : h.render.toList = h.write :=
  String.toList_ofList

theorem render_eq_iff {h k : Html α} : h.render = k.render ↔ h.write = k.write := by
  rw [← String.toList_inj, toList_render, toList_render]

end Html

end LandingPage
