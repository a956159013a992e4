import HeaderEnum.Naming.Owners
import Mathlib.Data.Finset.Card

/-!
# Ownership is permanent

A registry of owners is asked one request after another, refused claims included. What it answers is
told by the requests and answers before: a claim is refused exactly when the first granted claim of
the identifier was another constant's, an identifier is known once it was claimed at all, and the
registry counts the different identifiers that were claimed. A refused claim leaves no trace in any
later answer.
-/

namespace HeaderEnum.Naming

/-- What can be asked of a registry of owners. -/
inductive Request where
  /-- The constant claims the identifier. -/
  | claim (identifier constant : String)
  /-- Whether the identifier is claimed. -/
  | contains (identifier : String)
  /-- How many identifiers are claimed. -/
  | size
  deriving DecidableEq, Repr

/-- What a registry of owners answers. -/
inductive Answer where
  /-- The claim succeeds. -/
  | granted
  /-- The claim fails. -/
  | refused (collision : Collision)
  /-- The identifier is claimed, or is not. -/
  | known (claimed : Bool)
  /-- So many identifiers are claimed. -/
  | counted (number : Nat)
  deriving DecidableEq, Repr

/-- A request with its answer. -/
structure Exchange where
  /-- What was asked. -/
  request : Request
  /-- What was answered. -/
  answer : Answer
  deriving DecidableEq, Repr

/-- The constant that an identifier is granted to. -/
def Exchange.grantedTo? (identifier : String) : Exchange → Option String
  | ⟨.claim claimed constant, .granted⟩ => if claimed = identifier then some constant else none
  | _ => none

/-- The constant of the first granted claim of an identifier. -/
def firstOwner? (identifier : String) (history : List Exchange) : Option String :=
  history.findSome? (Exchange.grantedTo? identifier)

/-- The identifier that a request claims. -/
def Request.claimed? : Request → Option String
  | .claim identifier _ => some identifier
  | _ => none

/-- The identifiers that are claimed, granted or not. -/
def claimedIdentifiers (requests : List Request) : List String :=
  requests.filterMap Request.claimed?

namespace Owners

/-- The answer to a request, and the registry after it. -/
def respond (owners : Owners) : Request → Answer × Owners
  | .claim identifier constant =>
    match owners.claim identifier constant with
    | .ok after => (.granted, after)
    | .error collision => (.refused collision, owners)
  | .contains identifier => (.known (owners.contains identifier), owners)
  | .size => (.counted owners.size, owners)

/-- The registry after requests, one after another. -/
def afterAll : Owners → List Request → Owners
  | owners, [] => owners
  | owners, request :: rest => (owners.respond request).2.afterAll rest

/-- Requests with their answers, one after another. -/
def exchanges : Owners → List Request → List Exchange
  | _, [] => []
  | owners, request :: rest =>
    ⟨request, (owners.respond request).1⟩ :: (owners.respond request).2.exchanges rest

end Owners

/-! ## Histories -/

/-- An identifier is claimed when some constant claims it. -/
theorem mem_claimedIdentifiers {identifier : String} {requests : List Request} :
    identifier ∈ claimedIdentifiers requests ↔
      ∃ constant, Request.claim identifier constant ∈ requests := by
  rw [claimedIdentifiers, List.mem_filterMap]
  constructor
  · rintro ⟨request, hm, hc⟩
    cases request with
    | claim claimed constant =>
      cases hc
      exact ⟨constant, hm⟩
    | contains _ => contradiction
    | size => contradiction
  · rintro ⟨constant, hm⟩
    exact ⟨_, hm, rfl⟩

/-- One request more claims what it claims. -/
theorem mem_claimedIdentifiers_concat {identifier : String} {requests : List Request}
    {request : Request} :
    identifier ∈ claimedIdentifiers (requests ++ [request]) ↔
      identifier ∈ claimedIdentifiers requests ∨ request.claimed? = some identifier := by
  simp [claimedIdentifiers, List.filterMap_append, List.mem_filterMap]

/-- An identifier is granted only to a claim of it. -/
theorem claimed?_of_grantedTo? {exchange : Exchange} {identifier constant : String}
    (h : exchange.grantedTo? identifier = some constant) :
    exchange.request.claimed? = some identifier := by
  unfold Exchange.grantedTo? at h
  split at h
  · rw [Option.ite_none_right_eq_some] at h
    exact congrArg some h.1
  · contradiction

/-- One exchange more decides about the first owner only where there was none. -/
theorem firstOwner?_concat (identifier : String) (history : List Exchange) (exchange : Exchange) :
    firstOwner? identifier (history ++ [exchange]) =
      (firstOwner? identifier history).or (exchange.grantedTo? identifier) := by
  rw [firstOwner?, List.findSome?_append, List.findSome?_singleton]
  rfl

namespace Owners

variable {owners : Owners} {history : List Exchange}

/-- Answers do not depend on later requests. -/
theorem exchanges_append (owners : Owners) (before later : List Request) :
    owners.exchanges (before ++ later) =
      owners.exchanges before ++ (owners.afterAll before).exchanges later := by
  induction before generalizing owners with
  | nil => rfl
  | cons request rest ih =>
    rw [List.cons_append, exchanges, ih, exchanges, afterAll, List.cons_append]

/-- A history shows the requests. -/
theorem map_request_exchanges (owners : Owners) (requests : List Request) :
    (owners.exchanges requests).map Exchange.request = requests := by
  induction requests generalizing owners with
  | nil => rfl
  | cons request rest ih => rw [exchanges, List.map_cons, ih]

/-- A refused claim leaves the registry alone. -/
theorem respond_of_refused {identifier constant : String} {collision : Collision}
    (h : (owners.respond (.claim identifier constant)).1 = .refused collision) :
    (owners.respond (.claim identifier constant)).2 = owners := by
  unfold respond at h ⊢
  dsimp only at h ⊢
  cases hc : owners.claim identifier constant with
  | ok after => simp only [hc, reduceCtorEq] at h
  | error _ => rfl

/-! ## What a registry remembers -/

/-- A registry holds what a history decides: each identifier once, with its first owner, and none
but the claimed ones. -/
structure Remembers (owners : Owners) (history : List Exchange) : Prop where
  /-- No identifier stands twice. -/
  distinct : (owners.pairs.map Prod.fst).Nodup
  /-- The owner is the first one. -/
  owner : ∀ identifier, owners.owner? identifier = firstOwner? identifier history
  /-- A claimed identifier has an owner, and no other has one. -/
  claimed : ∀ identifier, (owners.owner? identifier).isSome = true ↔
    identifier ∈ claimedIdentifiers (history.map Exchange.request)

/-- An identifier has an owner when it stands in the registry. -/
theorem isSome_owner?_iff {identifier : String} :
    (owners.owner? identifier).isSome = true ↔ identifier ∈ owners.pairs.map Prod.fst := by
  rw [owner?, List.lookup_isSome_iff, List.mem_map]
  simp only [beq_iff_eq, @eq_comm _ identifier]

/-- Nothing is remembered at first. -/
theorem remembers_empty : Remembers empty [] where
  distinct := List.nodup_nil
  owner := fun _ => rfl
  claimed := fun identifier => by simp [claimedIdentifiers]

/-- An exchange that claims nothing new leaves the registry right. -/
theorem Remembers.pass (h : owners.Remembers history) {exchange : Exchange}
    (hclaim : ∀ identifier, exchange.request.claimed? = some identifier →
      (owners.owner? identifier).isSome = true) :
    owners.Remembers (history ++ [exchange]) := by
  refine ⟨h.distinct, fun identifier => ?_, fun identifier => ?_⟩
  · rw [firstOwner?_concat, ← h.owner]
    cases ho : owners.owner? identifier with
    | some owner => rfl
    | none =>
      cases hg : exchange.grantedTo? identifier with
      | none => rfl
      | some constant =>
        have hsome := hclaim identifier (claimed?_of_grantedTo? hg)
        rw [ho] at hsome
        contradiction
  · rw [List.map_append, List.map_singleton, mem_claimedIdentifiers_concat, ← h.claimed]
    exact ⟨.inl, fun hor => hor.elim id (hclaim identifier)⟩

/-- A claim of an identifier that has no owner is granted and leaves the registry right. -/
theorem Remembers.grant (h : owners.Remembers history) {identifier : String} (constant : String)
    (hfree : owners.owner? identifier = none) :
    (Owners.mk ((identifier, constant) :: owners.pairs)).Remembers
      (history ++ [⟨.claim identifier constant, .granted⟩]) := by
  have hclaim :
      owners.claim identifier constant = .ok ⟨(identifier, constant) :: owners.pairs⟩ := by
    rw [claim, hfree]
  refine ⟨?_, fun other => ?_, fun other => ?_⟩
  · refine List.nodup_cons.mpr ⟨fun hm => ?_, h.distinct⟩
    rw [← isSome_owner?_iff, hfree] at hm
    contradiction
  · rw [owner?_of_claim hclaim, firstOwner?_concat, ← h.owner]
    by_cases he : other = identifier
    · rw [if_pos he, he, hfree, Exchange.grantedTo?, if_pos rfl]
      rfl
    · rw [if_neg he, Exchange.grantedTo?, if_neg (Ne.symm he), Option.or_none]
  · rw [owner?_of_claim hclaim, List.map_append, List.map_singleton, mem_claimedIdentifiers_concat,
      ← h.claimed]
    by_cases he : other = identifier
    · simp [he, Request.claimed?]
    · simp [he, Request.claimed?, Ne.symm he]

/-- A claim of an identifier that has an owner is granted to the owner only, and changes nothing. -/
theorem respond_claim_of_owner {identifier owner : String} (constant : String)
    (ho : owners.owner? identifier = some owner) :
    owners.respond (.claim identifier constant) =
      (if owner = constant then .granted else .refused ⟨identifier, constant, owner⟩, owners) := by
  rw [respond, claim, ho]
  by_cases hc : owner = constant
  · simp only [if_pos hc]
  · simp only [if_neg hc]

/-- A claim of an identifier that has no owner is granted. -/
theorem respond_claim_of_free {identifier : String} (constant : String)
    (hfree : owners.owner? identifier = none) :
    owners.respond (.claim identifier constant) =
      (.granted, ⟨(identifier, constant) :: owners.pairs⟩) := by
  rw [respond, claim, hfree]

/-- The registry after a request is right, with the exchange added to the history. -/
theorem Remembers.respond (h : owners.Remembers history) (request : Request) :
    (owners.respond request).2.Remembers
      (history ++ [⟨request, (owners.respond request).1⟩]) := by
  cases request with
  | contains identifier => exact h.pass nofun
  | size => exact h.pass nofun
  | claim identifier constant =>
    cases ho : owners.owner? identifier with
    | none =>
      rw [respond_claim_of_free constant ho]
      exact h.grant constant ho
    | some owner =>
      rw [respond_claim_of_owner constant ho]
      refine h.pass fun other hother => ?_
      rw [← Option.some.inj hother, ho]
      rfl

/-- The registry after all requests is right. -/
theorem Remembers.afterAll (h : owners.Remembers history) (requests : List Request) :
    (owners.afterAll requests).Remembers (history ++ owners.exchanges requests) := by
  -- on the requests from the first on: each one moves into the history that the rest goes on from
  induction requests generalizing owners history with
  | nil =>
    rw [exchanges, List.append_nil]
    exact h
  | cons request rest ih =>
    have hrest := ih (h.respond request)
    rwa [List.append_assoc, List.singleton_append] at hrest

/-- A registry that started empty is right. -/
theorem remembers_afterAll (requests : List Request) :
    (empty.afterAll requests).Remembers (empty.exchanges requests) :=
  remembers_empty.afterAll requests

/-- The registry counts the identifiers that were claimed. -/
theorem Remembers.size_eq (h : owners.Remembers history) :
    owners.size = (claimedIdentifiers (history.map Exchange.request)).toFinset.card := by
  have hsame : (owners.pairs.map Prod.fst).toFinset =
      (claimedIdentifiers (history.map Exchange.request)).toFinset := by
    ext identifier
    rw [List.mem_toFinset, List.mem_toFinset, ← isSome_owner?_iff, h.claimed]
  rw [← hsame, List.toFinset_card_of_nodup h.distinct, List.length_map, size]

/-- A claim is refused exactly when the first owner is another constant. -/
theorem Remembers.refused_iff (h : owners.Remembers history) {identifier constant : String}
    {collision : Collision} :
    (owners.respond (.claim identifier constant)).1 = .refused collision ↔
      ∃ owner, firstOwner? identifier history = some owner ∧ owner ≠ constant ∧
        collision = ⟨identifier, constant, owner⟩ := by
  rw [← h.owner]
  cases ho : owners.owner? identifier with
  | none => simp [respond_claim_of_free constant ho]
  | some owner =>
    rw [respond_claim_of_owner constant ho]
    by_cases hc : owner = constant
    · simp [hc]
    · simp only [if_neg hc, Answer.refused.injEq]
      constructor
      · rintro rfl
        exact ⟨owner, rfl, hc, rfl⟩
      · rintro ⟨_, ho, -, rfl⟩
        rw [Option.some.inj ho]

/-- A claim is granted or refused. -/
theorem respond_claim_cases (owners : Owners) (identifier constant : String) :
    (owners.respond (.claim identifier constant)).1 = .granted ∨
      ∃ collision, (owners.respond (.claim identifier constant)).1 = .refused collision := by
  rw [respond]
  cases owners.claim identifier constant with
  | ok after => exact .inl rfl
  | error collision => exact .inr ⟨collision, rfl⟩

/-- Ownership is permanent. At any point of a sequence of requests to a registry that starts empty,
a claim is refused exactly when the first granted claim of the identifier was another constant's,
and the refusal names the identifier, the constant and that owner; the requests after a refused
claim are answered as if it had not been made. An identifier is known exactly when some constant claimed
it, and the registry counts the different identifiers that were claimed. -/
theorem ownership_is_permanent (before later : List Request) :
    let history := empty.exchanges before
    (∀ identifier constant, ∃ answer rest,
      empty.exchanges (before ++ .claim identifier constant :: later) =
          history ++ ⟨.claim identifier constant, answer⟩ :: rest ∧
        (answer = .granted ∨ ∃ collision, answer = .refused collision) ∧
        (∀ collision, answer = .refused collision ↔
          ∃ owner, firstOwner? identifier history = some owner ∧ owner ≠ constant ∧
            collision = ⟨identifier, constant, owner⟩) ∧
        (answer ≠ .granted → empty.exchanges (before ++ later) = history ++ rest)) ∧
    (∀ identifier, ∃ claimed rest,
      empty.exchanges (before ++ .contains identifier :: later) =
          history ++ ⟨.contains identifier, .known claimed⟩ :: rest ∧
        (claimed = true ↔ ∃ constant, Request.claim identifier constant ∈ before)) ∧
    ∃ rest, empty.exchanges (before ++ .size :: later) =
      history ++ ⟨.size, .counted (claimedIdentifiers before).toFinset.card⟩ :: rest := by
  intro history
  have h := remembers_afterAll before
  refine ⟨fun identifier constant => ?_, fun identifier => ?_, ?_⟩
  · have hcases := respond_claim_cases (empty.afterAll before) identifier constant
    refine ⟨_, _, exchanges_append _ before _, hcases, fun _ => h.refused_iff, fun hrefused => ?_⟩
    obtain ⟨collision, hc⟩ := hcases.resolve_left hrefused
    rw [exchanges_append, respond_of_refused hc]
  · refine ⟨_, _, exchanges_append _ before _, ?_⟩
    rw [contains, h.claimed, map_request_exchanges, mem_claimedIdentifiers]
  · have hsize := h.size_eq
    rw [map_request_exchanges] at hsize
    rw [exchanges_append, exchanges, respond, hsize]
    exact ⟨_, rfl⟩

/-- A claim that is refused between two claims of the owner. -/
theorem ownership_is_permanent_betweenClaims :
    let before := [Request.claim "id" "kID", .contains "id"]
    let later := [Request.claim "id" "kID", .claim "id" "kid", .size]
    let collision : Collision := ⟨"id", "kId", "kID"⟩
    ∃ rest, empty.exchanges (before ++ .claim "id" "kId" :: later) =
        empty.exchanges before ++ ⟨.claim "id" "kId", .refused collision⟩ :: rest ∧
      empty.exchanges (before ++ later) = empty.exchanges before ++ rest := by
  intro before later collision
  obtain ⟨answer, rest, hrun, -, hrefused, htrace⟩ :=
    (ownership_is_permanent before later).1 "id" "kId"
  have howner : firstOwner? "id" (empty.exchanges before) = some "kID" := by decide
  have hanswer : answer = .refused collision :=
    (hrefused collision).mpr ⟨"kID", howner, by decide, rfl⟩
  rw [hanswer] at hrun htrace
  exact ⟨rest, hrun, htrace nofun⟩

end Owners

end HeaderEnum.Naming
