/-!
Documents as trees. A document is built from texts and elements by joining. An element has its
attributes in order and, apart from them, its class text if it has one; it may carry the action that
a click on it runs, which is not part of its text. The element and attribute names are those the page
uses, so no name can hold a character that ends it.
-/
namespace LandingPage

inductive Tag where
  | a | button | circle | div | ellipse | footer | h1 | h2 | h3 | header | img | li | line | main | nav
  | p | path | rect | sect | span | strong | svg | ul
  deriving DecidableEq

def Tag.name : Tag → String
  | a => "a"
  | button => "button"
  | circle => "circle"
  | div => "div"
  | ellipse => "ellipse"
  | footer => "footer"
  | h1 => "h1"
  | h2 => "h2"
  | h3 => "h3"
  | header => "header"
  | img => "img"
  | li => "li"
  | line => "line"
  | main => "main"
  | nav => "nav"
  | p => "p"
  | path => "path"
  | rect => "rect"
  | sect => "section"
  | span => "span"
  | strong => "strong"
  | svg => "svg"
  | ul => "ul"

theorem Tag.name_inj {s t : Tag} : s.name = t.name ↔ s = t := by
  cases s <;> cases t <;> simp [name]

def Tag.isVoid : Tag → Bool
  | img => true
  | _ => false

/-- The attributes other than `class`. -/
inductive AttrName where
  | alt | ariaControls | ariaExpanded | ariaHidden | ariaLabel | cx | cy | d | draggable | fill
  | height | href | id | r | rx | ry | src | stroke | strokeLinecap | strokeLinejoin | strokeWidth
  | viewBox | width | x | x1 | x2 | xmlns | y | y1 | y2
  deriving DecidableEq

def AttrName.name : AttrName → String
  | alt => "alt"
  | ariaControls => "aria-controls"
  | ariaExpanded => "aria-expanded"
  | ariaHidden => "aria-hidden"
  | ariaLabel => "aria-label"
  | cx => "cx"
  | cy => "cy"
  | d => "d"
  | draggable => "draggable"
  | fill => "fill"
  | height => "height"
  | href => "href"
  | id => "id"
  | r => "r"
  | rx => "rx"
  | ry => "ry"
  | src => "src"
  | stroke => "stroke"
  | strokeLinecap => "stroke-linecap"
  | strokeLinejoin => "stroke-linejoin"
  | strokeWidth => "stroke-width"
  | viewBox => "viewBox"
  | width => "width"
  | x => "x"
  | x1 => "x1"
  | x2 => "x2"
  | xmlns => "xmlns"
  | y => "y"
  | y1 => "y1"
  | y2 => "y2"

theorem AttrName.name_inj {a b : AttrName} : a.name = b.name ↔ a = b := by
  cases a <;> cases b <;> simp [name]

theorem AttrName.name_ne_class (a : AttrName) : a.name ≠ "class" := by
  cases a <;> simp [name]

structure Attr where
  name : AttrName
  value : String
  deriving DecidableEq

/-- A document whose elements may run an action of type `α` when clicked. -/
inductive Html (α : Type) where
  | empty
  | text (content : String)
  | element (tag : Tag) (attrs : List Attr) (classes : Option String) (onClick : Option α)
      (body : Html α)
  | append (first second : Html α)

namespace Html

variable {α : Type}

def join : List (Html α) → Html α
  | [] => empty
  | h :: rest => append h (join rest)

def node (tag : Tag) (attrs : List Attr) (classes : Option String) (children : List (Html α)) :
    Html α :=
  element tag attrs classes none (join children)

def styled (tag : Tag) (classes : String) (children : List (Html α)) : Html α :=
  node tag [] (some classes) children

def plain (tag : Tag) (children : List (Html α)) : Html α :=
  node tag [] none children

end Html

end LandingPage
