/-
# Adoption keeps the names of a unit apart

A statement that was read from a text belongs to no scope; adopting it gives the
identifiers with the application's name the application's scope. Nothing else of
the statement changes but places in the text. So identifiers that were the same
stay the same and identifiers that differed still differ, exactly those with the
application's name are the application, and no other name of the program's
scopes comes in. Names of properties, methods and keys are no identifiers and
stay what they are, and a second adoption finds nothing left to do
(`adoption_is_hygienic`).

Key definitions: `Node.unplaced`, `Node.bare`, `Tree.identAt?`,
`AdoptsHygienically`.
Key theorems: `Node.bare_adopt`, `Tree.identAt?_adopt`,
`Ident.adopt_eq_adopt_iff`, `Tree.adopt_adopt`, `adoption_is_hygienic`.
-/
import HotReload.Proofs.HotUnit.Names
import HotReload.Proofs.Script.Unscoped
import HotReload.Proofs.Tree.Syntax

namespace HotReload

/-! ### Nodes -/

/-- The node without its place in a text. -/
def Node.unplaced (n : Node) : Node := { n with label := n.label.unplaced, span := .none }

/-- The node without its place in a text and, if it is an identifier, without its
scope. -/
def Node.bare (n : Node) : Node :=
  { n.unplaced with context := if n.ident?.isSome then 0 else n.context }

namespace Node

variable (app : Ident) (n : Node)

theorem ident?_adopt : (n.adopt app).ident? = n.ident?.map (Ident.adopt app) :=
  (rescopes_adopt app).ident? n

theorem ident?_unplaced : n.unplaced.ident? = n.ident? := by
  obtain ⟨field, label, context, span⟩ := n
  cases label <;> rfl

theorem unplaced_unplaced : n.unplaced.unplaced = n.unplaced := by
  simp [unplaced]

/-- Of a node that is not the application, adoption changes the place alone. -/
theorem adopt_of_ne {n : Node} (h : n.ident? ≠ some ⟨app.name, 0⟩) : n.adopt app = n.unplaced := by
  unfold adopt unplaced
  rw [if_neg h]

/-- Adoption changes nothing of a node but its place and its scope. -/
theorem bare_adopt : (n.adopt app).bare = n.bare := by
  have hidentifier : (n.adopt app).ident?.isSome = n.ident?.isSome := by
    rw [ident?_adopt, Option.isSome_map]
  have hcontext : (if n.ident?.isSome then 0 else (n.adopt app).context) =
      if n.ident?.isSome then 0 else n.context := by
    split
    · rfl
    · rename_i hnone
      have hne : n.ident? ≠ some ⟨app.name, 0⟩ := fun heq => hnone (by rw [heq]; rfl)
      rw [adopt_of_ne app hne]
      rfl
  unfold bare
  rw [hidentifier, hcontext]
  simp [unplaced, adopt]

/-- Adopting a node again changes nothing. -/
theorem adopt_adopt : (n.adopt app).adopt app = n.adopt app := by
  by_cases h : n.ident? = some ⟨app.name, 0⟩
  · have happ : n.adopt app = { n.unplaced with context := app.context } := by
      unfold adopt unplaced
      rw [if_pos h]
    rw [happ]
    unfold adopt
    rw [ite_self]
    simp [unplaced]
  · have hne : n.unplaced.ident? ≠ some ⟨app.name, 0⟩ := by
      rw [ident?_unplaced]
      exact h
    rw [adopt_of_ne app h, adopt_of_ne app hne, unplaced_unplaced]

end Node

/-! ### Identifiers -/

/-- Of the identifiers in no scope, adoption puts those with the application's name
into its scope. -/
theorem Ident.adopt_of_context_eq_zero (app : Ident) {id : Ident} (h : id.context = 0) :
    Ident.adopt app id = if id.name = app.name then app else id := by
  obtain ⟨name, context⟩ := id
  obtain rfl : context = 0 := h
  unfold adopt
  simp only [Ident.mk.injEq, and_true]

/-- Identifiers in no scope are the same after adoption exactly if they were the same
before. -/
theorem Ident.adopt_eq_adopt_iff (app : Ident) {id other : Ident} (h : id.context = 0)
    (hother : other.context = 0) : Ident.adopt app id = Ident.adopt app other ↔ id = other := by
  constructor
  · intro hadopt
    have hname : id.name = other.name := by
      rw [← Ident.name_adopt app id, hadopt, Ident.name_adopt]
    obtain ⟨name, context⟩ := id
    obtain ⟨name', context'⟩ := other
    obtain rfl : context = 0 := h
    obtain rfl : context' = 0 := hother
    rw [show name = name' from hname]
  · rintro rfl
    rfl

namespace Tree

/-- The identifier at an address, if there is one. -/
def identAt? (t : Tree Node) (address : List Nat) : Option Ident :=
  (t.nodeAt? address).bind Node.ident?

variable (app : Ident) {t : Tree Node}

theorem nodeAt?_adopt (t : Tree Node) (address : List Nat) :
    (t.adopt app).nodeAt? address = (t.nodeAt? address).map (Node.adopt app) :=
  t.nodeAt?_map (Node.adopt app) address

theorem identAt?_adopt (t : Tree Node) (address : List Nat) :
    (t.adopt app).identAt? address = (t.identAt? address).map (Ident.adopt app) := by
  unfold identAt?
  rw [nodeAt?_adopt]
  cases t.nodeAt? address with
  | none => rfl
  | some n => exact n.ident?_adopt app

theorem adopt_adopt (t : Tree Node) : (t.adopt app).adopt app = t.adopt app := by
  have hnodes : Node.adopt app ∘ Node.adopt app = Node.adopt app := funext (Node.adopt_adopt app)
  unfold adopt map
  simp only [Forest.map_map, hnodes, Node.adopt_adopt]

/-- No node of a tree in no scope has a scope number. -/
theorem Unscoped.context_eq_zero (h : t.Unscoped) {address : List Nat} {n : Node}
    (hn : t.nodeAt? address = some n) : n.context = 0 := by
  have hforest : ∀ (f : Forest Node) (i : Nat) (p : List Nat), f.Unscoped →
      (f.treeAt? i p).map root = some n → n.context = 0 := by
    intro f
    induction f with
    | nil =>
      intro i p _ hroot
      cases hroot
    | cons m kids rest ihk ihr =>
      rintro i p ⟨hm, hkids, hrest⟩ hroot
      rcases i with _ | i
      · rcases p with _ | ⟨j, p⟩
        · obtain rfl : m = n := Option.some.inj hroot
          exact hm
        · exact ihk j p hkids hroot
      · exact ihr i p hrest hroot
  rcases address with _ | ⟨i, p⟩
  · obtain rfl : t.root = n := Option.some.inj hn
    exact h.1
  · exact hforest t.children i p h.2 hn

theorem Unscoped.ident_context_eq_zero (h : t.Unscoped) {address : List Nat} {id : Ident}
    (hid : t.identAt? address = some id) : id.context = 0 := by
  obtain ⟨n, hn, hident⟩ := Option.bind_eq_some_iff.mp hid
  have hcontext : id.context = n.context := by
    unfold Node.ident? at hident
    split at hident
    · obtain rfl := Option.some.inj hident
      rfl
    · cases hident
  rw [hcontext]
  exact h.context_eq_zero hn

/-- Two addresses of a tree in no scope hold the same identifier after adoption
exactly if they did before. -/
theorem Unscoped.identAt?_adopt_eq_iff (h : t.Unscoped) (a b : List Nat) :
    (t.adopt app).identAt? a = (t.adopt app).identAt? b ↔ t.identAt? a = t.identAt? b := by
  rw [identAt?_adopt, identAt?_adopt]
  cases ha : t.identAt? a with
  | none => cases t.identAt? b <;> simp
  | some id =>
    cases hb : t.identAt? b with
    | none => simp
    | some other =>
      have hzero := h.ident_context_eq_zero ha
      have hzero' := h.ident_context_eq_zero hb
      simp only [Option.map_some, Option.some.injEq]
      exact Ident.adopt_eq_adopt_iff app hzero hzero'

/-- An identifier of an adopted tree is the application, if it has its name, and
otherwise belongs to no scope. -/
theorem Unscoped.identAt?_adopt_eq_some (h : t.Unscoped) {address : List Nat} {id : Ident}
    (hid : (t.adopt app).identAt? address = some id) :
    id = app ∨ id.name ≠ app.name ∧ id.context = 0 := by
  rw [identAt?_adopt] at hid
  obtain ⟨before, hbefore, rfl⟩ := Option.map_eq_some_iff.mp hid
  have hzero := h.ident_context_eq_zero hbefore
  rw [Ident.adopt_of_context_eq_zero app hzero]
  by_cases hname : before.name = app.name
  · rw [if_pos hname]
    exact Or.inl rfl
  · rw [if_neg hname]
    exact Or.inr ⟨hname, hzero⟩

end Tree

/-! ### Hygiene -/

/-- The tree `s` is the tree `t`, adopted into a program in which `app` is the
application, and adoption kept the scoping in it. -/
structure AdoptsHygienically (app : Ident) (t s : Tree Node) : Prop where
  /-- The trees are the same but for places and the scopes of identifiers. -/
  same : s.map Node.bare = t.map Node.bare
  /-- No node has a place. -/
  unplaced : ∀ address n, s.nodeAt? address = some n → n.unplaced = n
  /-- Two identifiers are the same exactly if they were. -/
  distinguishes : ∀ a b, s.identAt? a = s.identAt? b ↔ t.identAt? a = t.identAt? b
  /-- The application are the identifiers with its name. -/
  application : ∀ address id, s.identAt? address = some id → (id = app ↔ id.name = app.name)
  /-- No identifier is another one of the program's scopes. -/
  foreign : ∀ id, id.context ≠ 0 → id ≠ app → ∀ address, s.identAt? address ≠ some id
  /-- What is no identifier stays what it is. -/
  others : ∀ address n, t.nodeAt? address = some n → n.ident? = none →
    s.nodeAt? address = some n.unplaced
  /-- In a tree that is syntax, so do the names of properties, methods and keys. -/
  names : t.IsSyntax → ∀ address i parent n, t.nodeAt? address = some parent →
    t.nodeAt? (address ++ [i]) = some n → parent.label.namesProperty n.field = true →
    s.nodeAt? (address ++ [i]) = some n.unplaced
  /-- Adopting the tree again changes nothing. -/
  stable : s.adopt app = s

theorem Tree.Unscoped.adoptsHygienically {t : Tree Node} (h : t.Unscoped) (app : Ident) :
    AdoptsHygienically app t (t.adopt app) := by
  have hothers : ∀ address n, t.nodeAt? address = some n → n.ident? = none →
      (t.adopt app).nodeAt? address = some n.unplaced := by
    intro address n hn hnone
    have hne : n.ident? ≠ some ⟨app.name, 0⟩ := by
      rw [hnone]
      simp
    rw [Tree.nodeAt?_adopt, hn, Option.map_some, Node.adopt_of_ne app hne]
  exact {
    same := by
      have hnodes : Node.bare ∘ Node.adopt app = Node.bare := funext (Node.bare_adopt app)
      simp only [Tree.adopt, Tree.map, Forest.map_map, hnodes, Node.bare_adopt]
    unplaced := by
      intro address n hn
      rw [Tree.nodeAt?_adopt] at hn
      obtain ⟨before, -, rfl⟩ := Option.map_eq_some_iff.mp hn
      simp [Node.unplaced, Node.adopt]
    distinguishes := h.identAt?_adopt_eq_iff app
    application := by
      intro address id hid
      rcases h.identAt?_adopt_eq_some app hid with rfl | ⟨hname, -⟩
      · simp
      · exact ⟨fun happ => by rw [happ], fun happ => absurd happ hname⟩
    foreign := by
      intro id hcontext happ address hid
      rcases h.identAt?_adopt_eq_some app hid with heq | ⟨-, hzero⟩
      · exact happ heq
      · exact hcontext hzero
    others := hothers
    names := by
      intro htree address i parent n hparent hn hproperty
      have hadmits := htree.admits hparent hn
      exact hothers _ n hn (hadmits.name hproperty)
    stable := t.adopt_adopt app }

/-- **Adoption is hygienic.** Adopting a tree in no scope keeps apart what was apart
in it, makes exactly the identifiers with the application's name the application,
and brings in no other identifier of the program's scopes; it changes no name of a
property, a method or a key, and a second time it changes nothing. Every unit that
is put into a program was adopted in this way. -/
theorem adoption_is_hygienic (app : Ident) :
    (∀ t : Tree Node, t.Unscoped → AdoptsHygienically app t (t.adopt app)) ∧
    ∀ (u : HotUnit) unit, u.adopted app = .ok unit →
      ∃ t, u.statement = .ok t ∧ t.Unscoped ∧ unit = t.adopt app ∧
        AdoptsHygienically app t unit := by
  refine ⟨fun t h => h.adoptsHygienically app, fun u unit hunit => ?_⟩
  cases hread : u.statement with
  | error fault =>
    rw [HotUnit.adopted, hread] at hunit
    cases hunit
  | ok t =>
    rw [HotUnit.adopted, hread] at hunit
    obtain rfl : t.adopt app = unit := Except.ok.inj hunit
    have hunscoped : t.Unscoped := Script.unscoped_of_readStatement hread
    exact ⟨t, rfl, hunscoped, rfl, hunscoped.adoptsHygienically app⟩

end HotReload
