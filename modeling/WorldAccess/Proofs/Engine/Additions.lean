import WorldAccess.Proofs.Engine.Concealment

/-!
# What appended checkers can do

The configuration and callers may append checkers to the chain of an operation. They are heard after
the two leading checkers and the operation's own, and only if none of these settles the matter: a
vote for good or a denial ends the fold before anything appended is asked. So whatever is appended,
it can accept only what none of the operation's own chain has denied.

## Main definitions

* `Vote.isFinal` — a vote that ends the fold
* `Operation.ownChain` — the checkers that an operation has whatever is appended
* `Config.listings`, `Operation.listed?` — what a configuration lists, and what that appends
* `Engine.additions`, `Engine.bare` — the checkers appended to an operation, and the same engine
  with none
* `Engine.asked` — the checkers that are asked on a request

## Main results

* `Vote.foldAll_append_of_settled` — a final vote ends the fold
* `Config.pairwise_listings` — listings are in the order of their keys
* `Engine.chain_eq_append` — a chain is the operation's own and then the additions
* `Engine.evaluate_additions` — what the additions can do to a verdict
-/

namespace WorldAccess

open Std

/-! ### Folds in two parts -/

namespace Vote

variable {votes later : List Vote}

/-- Whether a vote ends the fold, so that no vote after it is looked at. -/
def isFinal : Vote → Bool
  | acceptAlways | deny | denyAlways => true
  | accept | skip => false

theorem foldInto_snd (v aggregate : Vote) : (v.foldInto aggregate).2 = v.isFinal := by
  cases v <;> rfl

/-- A fold over votes one of which is final ends among them, whatever follows. -/
theorem foldAll_append_of_settled (settled : ∃ v ∈ votes, v.isFinal = true) (aggregate : Vote)
    (later : List Vote) : foldAll aggregate (votes ++ later) = foldAll aggregate votes := by
  induction votes generalizing aggregate with
  | nil =>
    obtain ⟨v, none, _⟩ := settled
    cases none
  | cons v votes ih =>
    simp only [List.cons_append, foldAll, foldInto_snd]
    cases final : v.isFinal with
    | true => rfl
    | false =>
      -- the first vote is not final, so one of the others is
      obtain ⟨u, among, last⟩ := settled
      rcases List.mem_cons.mp among with rfl | among
      · rw [final] at last
        cases last
      · rw [ih ⟨u, among, last⟩]

theorem verdict_append_of_settled (settled : ∃ v ∈ votes, v.isFinal = true) (later : List Vote) :
    verdict (votes ++ later) = verdict votes := by
  rw [verdict, verdict, foldAll_append_of_settled settled]

theorem consulted_append_of_settled (settled : ∃ v ∈ votes, v.isFinal = true) (later : List Vote) :
    consulted (votes ++ later) ≤ votes.length := by
  rw [consulted, foldAll_append_of_settled settled]
  exact consulted_le_length votes

theorem isFinal_eq_false_of_verdict_append_ne (changed : verdict (votes ++ later) ≠ verdict votes) :
    ∀ v ∈ votes, v.isFinal = false := by
  intro v among
  rw [← Bool.not_eq_true]
  exact fun final => changed (verdict_append_of_settled ⟨v, among, final⟩ later)

end Vote

/-! ### Chains in two parts -/

/-- The checkers that an operation has whatever is appended: the leading ones and its own. -/
def Operation.ownChain (op : Operation) : List Checker := Checker.leading ++ op.builtin

/-- The names that a configuration lists, each with the key it is listed under: in the order of the
keys, and under one key in the order of the list. -/
def Config.listings (c : Config) : List (String × String) :=
  c.extraCheckers.toList.flatMap fun entry => entry.2.map (entry.1, ·)

/-- The checker that a listing appends to an operation: none if its key is no word for the
operation, and none if no registered checker has the name. -/
def Operation.listed? (op : Operation) (listing : String × String) : Option Checker :=
  if op.isWrittenAs listing.1 then Checker.ofName? listing.2 else none

/-- Listings are in the order of their keys. -/
theorem Config.pairwise_listings (c : Config) :
    c.listings.Pairwise fun a b => (compare a.1 b.1).isLE = true := by
  refine List.pairwise_flatMap.mpr ⟨fun entry _ => ?_, ?_⟩
  -- listings under one key, and then under two
  · refine List.pairwise_map.mpr (List.pairwise_of_forall fun _ _ => ?_)
    rw [ReflOrd.compare_self]
    rfl
  · refine c.extraCheckers.ordered_keys_toList.imp fun {a b} before x hx y hy => ?_
    obtain ⟨_, _, rfl⟩ := List.mem_map.mp hx
    obtain ⟨_, _, rfl⟩ := List.mem_map.mp hy
    rw [show compare a.1 b.1 = .lt from before]
    rfl

/-- What a configuration appends is what its listings stand for, one after the other. -/
theorem Config.appended_eq (c : Config) (op : Operation) :
    c.appended op = c.listings.filterMap op.listed? := by
  rw [appended, listings, List.filterMap_flatMap]
  refine congrArg (fun f => c.extraCheckers.toList.flatMap f) (funext fun entry => ?_)
  rw [List.filterMap_map]
  -- under a key that is no word for the operation, no name appends anything
  by_cases written : op.isWrittenAs entry.1 = true
  · simp only [Function.comp_def, Operation.listed?, if_pos written]
  · simp only [Function.comp_def, Operation.listed?, if_neg written]
    exact (List.filterMap_eq_nil_iff.mpr fun _ _ => rfl).symm

namespace Engine

variable {store : Store} {s : Session} {op : Operation} {r : Request}

/-- The checkers that the configuration and callers append to an operation. -/
def additions (e : Engine) (op : Operation) : List Checker :=
  e.config.listings.filterMap op.listed? ++ suppliedTo op e.extras

/-- The same engine with nothing appended. -/
def bare (e : Engine) : Engine :=
  { e with config := { e.config with extraCheckers := ∅ }, extras := [] }

/-- A chain is the operation's own and then the additions. -/
theorem chain_eq_append (e : Engine) (op : Operation) :
    e.chain op = op.ownChain ++ e.additions op := by
  rw [chain, Operation.chain, Config.appended_eq, additions, Operation.ownChain]
  simp only [List.append_assoc]

theorem chain_bare (e : Engine) (op : Operation) : e.bare.chain op = op.ownChain :=
  (appendsNothing_of_empty rfl rfl).chain op

/-- What is appended does not bear on the capabilities of a session. -/
theorem populate_bare (e : Engine) (store : Store) (s : Session) :
    (e.bare.populate store s).2 = (e.populate store s).2 := by
  have implicit : e.bare.isImplicitAdmin s = e.isImplicitAdmin s := rfl
  have sites : ∀ s, e.bare.grantSites s = e.grantSites s := fun _ => rfl
  have lists : e.bare.grants = e.grants := rfl
  simp only [populate, implicit, sites, lists]
  split <;> rfl

/-- The votes of checkers on a request once the session's capabilities are resolved. -/
def opinions (e : Engine) (store : Store) (s : Session) (r : Request) (chain : List Checker) :
    List Vote :=
  chain.map fun c => c.vote (e.surroundings store) (e.populate store s).2 r

theorem opinions_append (e : Engine) (store : Store) (s : Session) (r : Request)
    (first second : List Checker) :
    e.opinions store s r (first ++ second) =
      e.opinions store s r first ++ e.opinions store s r second :=
  List.map_append

theorem opinions_bare (e : Engine) (store : Store) (s : Session) (r : Request)
    (chain : List Checker) : e.bare.opinions store s r chain = e.opinions store s r chain := by
  rw [opinions, opinions, populate_bare]
  rfl

/-- A session that remembers no verdict on a request is given the verdict of the chain's votes. -/
theorem evaluate_of_unasked (e : Engine) (store : Store)
    (unasked : s.decisions.lookup? ⟨op, r.scope⟩ = none) :
    (e.evaluate store s op r).2.2 = Vote.verdict (e.opinions store s r (e.chain op)) := by
  rw [evaluate_eq, unasked, Option.getD_none, freshVerdict, votes_populate]
  rfl

/-- The checkers that are asked on a request which the session remembers no verdict on. -/
def asked (e : Engine) (store : Store) (s : Session) (op : Operation) (r : Request) :
    List Checker :=
  (e.chain op).take (Vote.consulted (e.opinions store s r (e.chain op)))

theorem calls_evaluate (e : Engine) (store : Store)
    (unasked : s.decisions.lookup? ⟨op, r.scope⟩ = none) :
    (e.evaluate store s op r).1.calls = count e.calls (e.asked store s op r) := by
  have config := e.config_populate store s
  have extras := e.extras_populate store s
  have calls : (e.populate store s).1.calls = e.calls := by
    unfold populate
    split <;> rfl
  simp only [evaluate, unasked, chain, surroundings, config, extras, calls, asked, opinions, votes]

/-- No checker of an operation's own is counted. -/
theorem count_of_own (calls : List Nat) {asked : List Checker}
    (own : ∀ c ∈ asked, c ∈ op.ownChain) : count calls asked = calls := by
  -- only checkers that callers supply are counted
  have single : ∀ c ∈ op.ownChain, count calls [c] = calls := by
    intro c among
    cases op <;> simp [Operation.ownChain, Checker.leading, Operation.builtin] at among <;>
      rcases among with rfl | rfl | rfl <;> rfl
  induction asked with
  | nil => rfl
  | cons c rest ih =>
    obtain ⟨first, later⟩ := List.forall_mem_cons.mp own
    calc count calls (c :: rest)
      _ = count (count calls [c]) rest := rfl
      _ = count calls rest := by rw [single c first]
      _ = calls := ih later

/-- What the additions can do to a verdict. A chain is the two leading checkers, the operation's
own, the registered checkers that the configuration lists under words for the operation, key by key
and in the order of each list, and those that callers append, in the order in which they do. Suppose
that a session is asked on something it remembers no verdict on. If one of the operation's own chain
casts a final vote, the verdict is what it is with nothing appended, and no addition is asked. If
none does, the verdict is that of the own votes and then the votes of the additions. So where the
additions lead to an acceptance, none of the own chain has denied. -/
theorem evaluate_additions (e : Engine) (store : Store)
    (unasked : s.decisions.lookup? ⟨op, r.scope⟩ = none) :
    let own := e.opinions store s r op.ownChain
    e.chain op = .crossSite :: .admin ::
        (op.builtin ++ (e.config.listings.filterMap op.listed? ++ suppliedTo op e.extras)) ∧
      (e.config.listings.Pairwise fun a b => (compare a.1 b.1).isLE = true) ∧
      ((∃ v ∈ own, v.isFinal = true) →
        (e.evaluate store s op r).2.2 = (e.bare.evaluate store s op r).2.2 ∧
          e.asked store s op r <+: op.ownChain ∧ (e.evaluate store s op r).1.calls = e.calls) ∧
      ((∀ v ∈ own, v.isFinal = false) → (e.evaluate store s op r).2.2 =
        Vote.verdict (own ++ e.opinions store s r (e.additions op))) ∧
      ((e.evaluate store s op r).2.2 = .accept → (e.bare.evaluate store s op r).2.2 ≠ .accept →
        ∀ v ∈ own, v ≠ .deny ∧ v ≠ .denyAlways) := by
  intro own
  -- both verdicts are folds of votes, and one of them goes on where the other ends
  have extended : (e.evaluate store s op r).2.2 =
      Vote.verdict (own ++ e.opinions store s r (e.additions op)) := by
    rw [e.evaluate_of_unasked store unasked, chain_eq_append, opinions_append]
  have plain : (e.bare.evaluate store s op r).2.2 = Vote.verdict own := by
    rw [e.bare.evaluate_of_unasked store unasked, chain_bare, opinions_bare]
  refine ⟨e.chain_eq_append op, e.config.pairwise_listings, fun settled => ?_, fun _ => extended,
    fun accepted refused v among => ?_⟩
  · have within : e.asked store s op r <+: op.ownChain := by
      -- no more checkers are asked than the own chain has
      have few := Vote.consulted_append_of_settled settled (e.opinions store s r (e.additions op))
      rw [asked, chain_eq_append, opinions_append,
        List.take_append_of_le_length (by simpa [own, opinions] using few)]
      exact List.take_prefix _ _
    refine ⟨?_, within, ?_⟩
    · rw [extended, plain, Vote.verdict_append_of_settled settled]
    · rw [e.calls_evaluate store unasked, count_of_own e.calls fun c among => within.mem among]
  · -- the additions have changed the verdict, so no own vote is final
    rw [extended] at accepted
    rw [plain] at refused
    have unsettled := Vote.isFinal_eq_false_of_verdict_append_ne
      (fun same => refused (same ▸ accepted)) v among
    constructor <;> rintro rfl <;> cases unsettled

/-- A configuration that spells an operation in two ways, lists a name that stands for nothing and
has a key that is no operation. -/
def lenientConfig : Config where
  extraCheckers := .ofList [("get_contains", ["accept_all"]),
    (" Get_Contains ", ["no_such", "use_action"]), ("fly", ["accept_all"])]

/-- An engine of that configuration to which a caller appends checkers that accept. -/
def lenientEngine : Engine where
  config := lenientConfig
  extras := [(.getContains, .fixed 0 .acceptAlways), (.sendTextRoom, .fixed 1 .accept)]
  calls := [0, 0]

/-- A stranger's question about what is in a room, which is refused to them. -/
def lookInto : Request := .target (.fresh .epoch ⟨2, 7⟩ .room "vault" ⟨2, 6⟩)

theorem evaluate_additions_lenient :
    (lenientEngine.chain .getContains).map Checker.name =
        ["cross_site", "admin", "get_contains", "use_action", "accept_all", "fixed"] ∧
      (lenientEngine.evaluate .empty (.forRequester ⟨2, 1⟩) .getContains lookInto).2.2 =
        (lenientEngine.bare.evaluate .empty (.forRequester ⟨2, 1⟩) .getContains lookInto).2.2 ∧
      (lenientEngine.evaluate .empty (.forRequester ⟨2, 1⟩) .getContains lookInto).1.calls =
        [0, 0] ∧
      (lenientEngine.evaluate .empty (.forRequester ⟨2, 1⟩) .sendTextRoom .global).2.2 =
        Vote.verdict ([.skip, .skip, .skip] ++ [.accept]) := by
  have unasked : ∀ q, (Session.forRequester ⟨2, 1⟩).decisions.lookup? q = none := fun _ => rfl
  obtain ⟨_, _, settled, _, _⟩ := evaluate_additions lenientEngine .empty
    (unasked ⟨.getContains, lookInto.scope⟩)
  obtain ⟨_, _, _, unsettled, _⟩ := evaluate_additions lenientEngine .empty
    (unasked ⟨.sendTextRoom, Request.global.scope⟩)
  obtain ⟨same, _, calls⟩ := settled ⟨.deny, by decide +kernel, rfl⟩
  exact ⟨by decide +kernel, same, calls, unsettled (by decide +kernel)⟩

end Engine

end WorldAccess
