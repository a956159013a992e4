/-!
# Owners of identifiers

Each identifier belongs to the constant that claimed it first. A claim by another constant is a
collision and changes nothing; a claim by the owner is repeated without effect.
-/

namespace HeaderEnum.Naming

/-- Two constants want the same identifier. -/
structure Collision where
  /-- The identifier that both produce. -/
  identifier : String
  /-- The constant that comes too late. -/
  constant : String
  /-- The constant that has it. -/
  owner : String
  deriving DecidableEq, Repr

/-- The wording of a collision. -/
def Collision.message (collision : Collision) : String :=
  "Case name collision for '" ++ collision.identifier ++ "' derived from " ++ collision.constant
    ++ " (already used by " ++ collision.owner ++ ")"

/-- Identifiers with their owners, the latest first. -/
structure Owners where
  /-- Pairs of an identifier and its owner; no identifier stands twice. -/
  pairs : List (String × String)
  deriving DecidableEq, Repr

namespace Owners

/-- No identifier is claimed. -/
def empty : Owners := ⟨[]⟩

/-- The owner of an identifier. -/
def owner? (owners : Owners) (identifier : String) : Option String :=
  owners.pairs.lookup identifier

/-- The identifier is claimed. -/
def contains (owners : Owners) (identifier : String) : Bool :=
  (owners.owner? identifier).isSome

/-- How many identifiers are claimed. -/
def size (owners : Owners) : Nat := owners.pairs.length

/-- Claim an identifier for a constant. -/
def claim (owners : Owners) (identifier constant : String) : Except Collision Owners :=
  match owners.owner? identifier with
  | none => .ok ⟨(identifier, constant) :: owners.pairs⟩
  | some owner =>
    if owner = constant then .ok owners else .error ⟨identifier, constant, owner⟩

/-- Nothing is claimed at first. -/
@[simp] theorem owner?_empty (identifier : String) : empty.owner? identifier = none := rfl

/-- A claim succeeds when the identifier is free or the claimant's own. -/
theorem claim_eq_ok_iff (owners : Owners) (identifier constant : String) :
    (∃ after, owners.claim identifier constant = .ok after) ↔
      ∀ owner, owners.owner? identifier = some owner → owner = constant := by
  unfold claim
  cases h : owners.owner? identifier with
  | none => simp
  | some owner =>
    by_cases hc : owner = constant
    · simp [hc]
    · simp [hc]

/-- After a claim the identifier has its owner, and all other identifiers have theirs. -/
theorem owner?_of_claim {owners after : Owners} {identifier constant : String}
    (h : owners.claim identifier constant = .ok after) (other : String) :
    after.owner? other = if other = identifier then some constant else owners.owner? other := by
  unfold claim at h
  cases ho : owners.owner? identifier with
  | none =>
    simp only [ho, Except.ok.injEq] at h
    subst h
    by_cases he : other = identifier
    · simp [owner?, he]
    · simp [owner?, List.lookup_cons, he, beq_eq_false_iff_ne.mpr he]
  | some owner =>
    simp only [ho] at h
    split at h
    · rename_i hc
      simp only [Except.ok.injEq] at h
      subst h
      by_cases he : other = identifier
      · simp [he, ho, hc]
      · simp [he]
    · simp at h

end Owners

end HeaderEnum.Naming
