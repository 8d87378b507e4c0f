namespace ExitParity.Choice

def asciiLower (text : String) : List Char := text.toList.map Char.toLower

/-- The value among `all` that a text spells. Case counts unless it is to be
ignored, and then only ASCII letters have two cases. -/
def spelled? {α : Type} (all : List α) (spelling : α → String) (ignoreCase : Bool) (text : String) : Option α :=
  all.find? fun value =>
    if ignoreCase then asciiLower (spelling value) == asciiLower text else spelling value == text

end ExitParity.Choice
