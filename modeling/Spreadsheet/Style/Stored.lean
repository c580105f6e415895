import Spreadsheet.Shape
import Spreadsheet.Style

/-!
# Stored styles

A style is stored as an object of the fields that are set, in a fixed order. Main statement:
`shape_toJson`, what is stored reads back.
-/

namespace Spreadsheet.Style

/-- Reads a style; every field may be missing or `null`. -/
def shape : Shape Style :=
  Shape.record fun fields =>
    Style.mk <$> Shape.setting "bold" Shape.flag fields
      <*> Shape.setting "italic" Shape.flag fields
      <*> Shape.setting "underline" Shape.flag fields
      <*> Shape.setting "align" (Shape.named Alignment.ofName?) fields
      <*> Shape.setting "bg" Shape.text fields
      <*> Shape.setting "color" Shape.text fields
      <*> Shape.setting "font_size" Shape.integer fields
      <*> Shape.setting "format" (Shape.named NumberStyle.ofName?) fields

/-- The fields of a style that are set. -/
def fields (s : Style) : List (Text × Json) :=
  Json.fieldIfSome "bold" (s.bold.map .bool) ++
    Json.fieldIfSome "italic" (s.italic.map .bool) ++
    Json.fieldIfSome "underline" (s.underline.map .bool) ++
    Json.fieldIfSome "align" (s.align.map fun a => .string a.name) ++
    Json.fieldIfSome "bg" (s.background.map .string) ++
    Json.fieldIfSome "color" (s.color.map .string) ++
    Json.fieldIfSome "font_size" (s.fontSize.map .integer) ++
    Json.fieldIfSome "format" (s.format.map fun f => .string f.name)

/-- A style as it is stored. -/
def toJson (s : Style) : Json :=
  .object s.fields

/-! ## Reading back -/

/-- The value under a name among the fields of a style. -/
theorem lookup_fields (s : Style) (k : Text) :
    s.fields.lookup k =
      if k = "bold" then s.bold.map .bool
      else if k = "italic" then s.italic.map .bool
      else if k = "underline" then s.underline.map .bool
      else if k = "align" then s.align.map fun a => .string a.name
      else if k = "bg" then s.background.map .string
      else if k = "color" then s.color.map .string
      else if k = "font_size" then s.fontSize.map .integer
      else if k = "format" then s.format.map fun f => .string f.name
      else none := by
  simp only [fields, List.lookup_append, Json.lookup_fieldIfSome]
  grind

/-- A style that is stored reads back as it was. -/
theorem shape_toJson (s : Style) : shape s.toJson = .ok s := by
  have bold := Shape.setting_of_lookup Shape.flag "bold" Json.bool
    (fun x => ⟨nofun, rfl⟩) (s.lookup_fields "bold")
  have italic := Shape.setting_of_lookup Shape.flag "italic" Json.bool
    (fun x => ⟨nofun, rfl⟩) (s.lookup_fields "italic")
  have underline := Shape.setting_of_lookup Shape.flag "underline" Json.bool
    (fun x => ⟨nofun, rfl⟩) (s.lookup_fields "underline")
  have align := Shape.setting_of_lookup (Shape.named Alignment.ofName?) "align"
    (fun a => Json.string a.name)
    (fun a => ⟨nofun, by simp [Shape.named, Alignment.ofName?_name]⟩) (s.lookup_fields "align")
  have background := Shape.setting_of_lookup Shape.text "bg" Json.string
    (fun x => ⟨nofun, rfl⟩) (s.lookup_fields "bg")
  have color := Shape.setting_of_lookup Shape.text "color" Json.string
    (fun x => ⟨nofun, rfl⟩) (s.lookup_fields "color")
  have fontSize := Shape.setting_of_lookup Shape.integer "font_size" Json.integer
    (fun x => ⟨nofun, rfl⟩) (s.lookup_fields "font_size")
  have format := Shape.setting_of_lookup (Shape.named NumberStyle.ofName?) "format"
    (fun f => Json.string f.name)
    (fun f => ⟨nofun, by simp [Shape.named, NumberStyle.ofName?_name]⟩)
    (s.lookup_fields "format")
  simp only [shape, toJson, Shape.record, bold, italic, underline, align, background, color,
    fontSize, format]
  rfl

end Spreadsheet.Style
