import ProxmoxIaas.Foundation.Text

/-!
# The Values of Terraform Variables

The variables of a Terraform job are a dictionary of Python values. They are written to a file and
to the log. A text is the list of its characters.
-/

namespace ProxmoxIaas.Terraform

/-- A Python value. -/
inductive Value where
  /-- A string. -/
  | str (text : List Char)
  /-- A boolean. -/
  | bool (b : Bool)
  /-- An integer. -/
  | int (n : ℤ)
  /-- A floating-point number, by its text. -/
  | float (text : List Char)
  /-- A list. -/
  | list (items : List Value)
  /-- A dictionary, in the order of insertion. -/
  | dict (entries : List (List Char × Value))
  /-- Any other object, by its text. -/
  | other (text : List Char)

/-- A dictionary. -/
abbrev Dict := List (List Char × Value)

end ProxmoxIaas.Terraform
