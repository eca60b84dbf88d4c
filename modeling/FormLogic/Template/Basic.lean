import FormLogic.Json.Basic

/-!
# Message templates

A template is a text with tags between double braces.  A tag inserts a value, opens or closes a
block, includes another template, or is a comment.  This module holds the elements that a template
consists of once its blocks are matched.
-/

namespace FormLogic.Template

/-- One step of a reference to a value. -/
inductive Segment where
  /-- The data of the whole message. -/
  | root
  /-- The variables that a block defines beside its value, such as the index of an item. -/
  | locals
  /-- The value of the block around the present one. -/
  | up
  /-- The entry of an object, or the item of an array, with this name. -/
  | named (name : String)
  deriving DecidableEq, Repr

/-- A reference to a value, with the text that it was written as. -/
structure Reference where
  text : String
  segments : List Segment
  deriving Repr

/-- An argument of a call. -/
inductive Argument where
  | literal (value : Json)
  | word (name : String)
  | reference (target : Reference)
  | call (name : Argument) (arguments : List Argument) (options : List (String × Argument))

/-- What stands in a tag: a name, arguments, and options by name. -/
structure Call where
  name : Argument
  arguments : List Argument
  options : List (String × Argument)

/-- A part of a template. -/
inductive Element where
  /-- Text that stands for itself. -/
  | raw (text : String)
  /-- The value of a reference or of a helper. -/
  | value (call : Call)
  /-- A helper applied to a body and perhaps to an alternative; the names are those that the body
  gives to its item and to the item's key. -/
  | block (call : Call) (itemNames : List String) (body : List Element)
      (inverse : Option (List Element))
  /-- Another template, with the blanks that stand before each of its lines. -/
  | inclusion (call : Call) (indent : List Char) (body : Option (List Element))
  /-- A definition that the rest of the template can use. -/
  | decorator (call : Call) (body : Option (List Element))
  | comment

end FormLogic.Template

namespace FormLogic

/-- A template that has been read; a template of a catalog has a name. -/
structure Template where
  name : Option String
  elements : List Template.Element

end FormLogic
