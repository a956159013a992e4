/-!
# Reserved words

Which identifiers the target syntax reserves, and how it lets one be used as a name all the same.
-/

namespace HeaderEnum.Naming

/-- A set of reserved words with its rule for quoting them. -/
structure ReservedWords where
  /-- The identifier cannot stand for a name as it is. -/
  isReserved : String → Bool
  /-- The spelling that makes a reserved word a name. -/
  quote : String → String

/-- Quote an identifier only when it is reserved. -/
def ReservedWords.escape (words : ReservedWords) (identifier : String) : String :=
  if words.isReserved identifier then words.quote identifier else identifier

/-- Nothing is reserved. -/
def ReservedWords.none : ReservedWords := ⟨fun _ => false, id⟩

/-- The listed words are reserved and quoted between two texts. -/
def ReservedWords.between (words : List String) (before after : String) : ReservedWords :=
  ⟨words.contains, fun name => before ++ name ++ after⟩

end HeaderEnum.Naming
