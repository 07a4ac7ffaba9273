import Workcell.Proofs.Yaml.Filled.Tokens

namespace Workcell.Yaml

/-- Whether a token leads to the same tag when it is filled. -/
def Token.Keeps (w : Char) (x : List Char) : Token → Prop
  | .scalar text true => w ∈ text.chars → Tag.ofPlain (Yaml.fill w x text.chars) = Tag.ofPlain text.chars
  | .tag _ suffix => suffix ≠ "" ∧ suffix ≠ "!"
  | _ => True

theorem Token.fill_eq_self {w : Char} {x : List Char} {t : Token} (h : ¬∃ text plain, t = .scalar text plain) :
    t.fill w x = t := by
  cases t with
  | scalar text plain => exact absurd ⟨text, plain, rfl⟩ h
  | _ => rfl

def Node.fill (w : Char) (x : List Char) : Node → Node
  | .scalar t text => .scalar t (text.fill w x)
  | n => n

theorem Node.tag_fill (w : Char) (x : List Char) (n : Node) : (n.fill w x).tag = n.tag := by
  cases n <;> rfl

namespace Composer

variable {w : Char} {x : List Char} {α β : Type} {P : α → Prop} {Q : β → Prop}

def fill (w : Char) (x : List Char) (s : Composer) : Composer :=
  { s with rest := s.rest.map (Token.fill w x), nodes := s.nodes.map (Node.fill w x) }

/-- Two computations that go on alike from a state and from the filled one, with a result of some kind. -/
def Mirrors (w : Char) (x : List Char) (P : α → Prop) (f f' : Compose α) : Prop :=
  ∀ s : Composer, (∀ t ∈ s.rest, t.Keeps w x) →
    Follows (fun r r' => r' = (r.1, r.2.fill w x) ∧ P r.1 ∧ ∀ t ∈ r.2.rest, t.Keeps w x) (f s) (f' (s.fill w x))

abbrev Natural (w : Char) (x : List Char) (f : Compose α) : Prop := Mirrors w x (fun _ => True) f f

theorem Mirrors.bind {f f' : Compose α} {g g' : α → Compose β} (hf : Mirrors w x P f f')
    (hg : ∀ a, P a → Mirrors w x Q (g a) (g' a)) : Mirrors w x Q (f >>= g) (f' >>= g') := by
  intro s hs
  refine (hf s hs).bind ?_
  rintro ⟨a, t⟩ _ ⟨rfl, ha, ht⟩
  exact hg a ha t ht

theorem mirrors_pure {a : α} (ha : P a) : Mirrors w x P (pure a) (pure a) := fun _ hs =>
  follows_ok ⟨rfl, ha, hs⟩

theorem mirrors_refuse (f' : Compose α) : Mirrors w x P refuse f' := fun _ _ => trivial

theorem natural_pure (a : α) : Natural w x (pure a) := mirrors_pure trivial

theorem natural_get {f : Composer → Compose β} (hfill : ∀ s : Composer, f (s.fill w x) = f s)
    (hf : ∀ s, Mirrors w x Q (f s) (f s)) : Mirrors w x Q (get >>= f) (get >>= f) := by
  intro s hs
  change Follows _ (f s s) (f (s.fill w x) (s.fill w x))
  rw [hfill]
  exact hf s s hs

theorem natural_modify {f : Composer → Composer} (hrest : ∀ s, (f s).rest ⊆ s.rest)
    (hfill : ∀ s, f (s.fill w x) = (f s).fill w x) : Natural w x (modify f : Compose PUnit) := by
  intro s hs
  refine follows_ok ⟨?_, trivial, fun t ht => hs t (hrest s ht)⟩
  rw [← hfill]

theorem mirrors_peek {k k' : Token → Compose β} (hk : ∀ t, t.Keeps w x → Mirrors w x Q (k t) (k' (t.fill w x))) :
    Mirrors w x Q (peek >>= k) (peek >>= k') := by
  rintro ⟨rest, nodes, anchors, handles⟩ hs
  cases rest with
  | nil => trivial
  | cons t r =>
      have ht := hk t (hs t List.mem_cons_self) ⟨t :: r, nodes, anchors, handles⟩ hs
      cases t with
      | fault e => trivial
      | _ => exact ht

theorem natural_peek {k : Token → Compose β} (hfill : ∀ t : Token, k (t.fill w x) = k t)
    (hk : ∀ t, t.Keeps w x → Mirrors w x Q (k t) (k t)) : Mirrors w x Q (peek >>= k) (peek >>= k) :=
  mirrors_peek fun t ht => by rw [hfill]; exact hk t ht

theorem natural_skip : Natural w x skip :=
  natural_modify (fun _ => List.drop_subset 1 _) fun s => by simp [fill]

theorem mirrors_add (p : Properties) {n n' : Node} (hn : n' = n.fill w x) :
    Mirrors w x (fun _ => True) (add p n) (add p n') := by
  intro s hs
  subst hn
  refine follows_ok ⟨?_, trivial, hs⟩
  simp [fill]

theorem natural_add (p : Properties) {n : Node} (hn : n.fill w x = n) : Natural w x (add p n) :=
  mirrors_add p hn.symm

theorem natural_put (id : Nat) {n : Node} (hn : n.fill w x = n) : Natural w x (put id n) :=
  natural_modify (fun _ => List.Subset.refl _) fun s => by simp [fill, hn]

theorem natural_addEmpty : Natural w x addEmpty := natural_add _ rfl

theorem natural_anchor : Natural w x anchor := by
  refine natural_peek (fun t => by cases t <;> rfl) fun t _ => ?_
  split
  · exact natural_skip.bind fun _ _ => natural_pure _
  · exact natural_pure _

def Settles (t : Option (Option String × String)) : Prop := ∀ u ∈ t, u.2 ≠ "" ∧ u.2 ≠ "!"

theorem mirrors_tag : Mirrors w x Settles tag tag := by
  refine natural_peek (fun t => by cases t <;> rfl) fun t ht => ?_
  split
  · exact natural_skip.bind fun _ _ => mirrors_pure (by simpa [Settles, Token.Keeps] using ht)
  · exact mirrors_pure nofun

theorem mirrors_expand {t : Option (Option String × String)} (ht : Settles t) :
    Mirrors w x (· ≠ some "!") (expand t) (expand t) := by
  rw [expand.eq_def]
  split
  · exact mirrors_pure nofun
  · next suffix => exact mirrors_pure (by simpa using (ht _ rfl).2)
  · next handle suffix =>
    refine natural_get (fun _ => rfl) fun s => ?_
    split
    · next expansion _ =>
      refine mirrors_pure fun heq => ?_
      have hlength := congrArg String.toList (Option.some.inj heq)
      rw [String.toList_append] at hlength
      rcases List.append_eq_singleton_iff.1 hlength with ⟨-, hsuffix⟩ | ⟨-, hsuffix⟩
      · exact (ht _ rfl).2 (String.toList_inj.1 hsuffix)
      · exact (ht _ rfl).1 (String.toList_inj.1 hsuffix)
    · exact mirrors_refuse _

theorem mirrors_properties : Mirrors w x (fun p => p.tag ≠ some "!") properties properties := by
  refine natural_anchor.bind fun a _ => ?_
  split
  · exact mirrors_tag.bind fun t ht => (mirrors_expand ht).bind fun _ ht => mirrors_pure ht
  · refine mirrors_tag.bind fun t ht => ?_
    split
    · exact natural_anchor.bind fun _ _ => (mirrors_expand ht).bind fun _ ht => mirrors_pure ht
    · exact mirrors_pure nofun

theorem natural_separator : Natural w x separator := by
  rw [separator]
  refine natural_peek (fun t => by cases t <;> rfl) fun t _ => ?_
  split
  · exact natural_skip
  · exact mirrors_refuse _

theorem natural_unless {f : Unit → Compose α} (first : Bool) (hf : Natural w x (f ())) :
    Natural w x (if first then f () else separator >>= f) := by
  split
  · exact hf
  · exact natural_separator.bind fun _ _ => hf

structure NaturalWith (w : Char) (x : List Char) (fuel : Nat) : Prop where
  node : ∀ ctx, Natural w x (node fuel ctx)
  content : ∀ ctx p, p.tag ≠ some "!" → Natural w x (content fuel ctx p)
  nodeUnless : ∀ missing ctx, (∀ t : Token, missing (t.fill w x) = missing t) →
    Natural w x (nodeUnless fuel missing ctx)
  valueOf : ∀ missing ctx, (∀ t : Token, missing (t.fill w x) = missing t) → Natural w x (valueOf fuel missing ctx)
  indentlessItems : Natural w x (indentlessItems fuel)
  blockItems : Natural w x (blockItems fuel)
  blockEntries : Natural w x (blockEntries fuel)
  flowItems : ∀ first, Natural w x (flowItems fuel first)
  flowEntries : ∀ first, Natural w x (flowEntries fuel first)

theorem scalarTag_fill {p : Properties} (hp : p.tag ≠ some "!") {text : ScalarText} {plain : Bool}
    (ht : (Token.scalar text plain).Keeps w x) :
    p.scalarTag (text.fill w x).chars plain = p.scalarTag text.chars plain := by
  have hlone : (p.tag == some "!") = false := beq_false_of_ne hp
  rw [Properties.scalarTag, Properties.scalarTag, hlone]
  cases plain with
  | false => rfl
  | true =>
      by_cases hmem : w ∈ text.chars
      · rw [show (text.fill w x).chars = Yaml.fill w x text.chars from rfl, ht hmem]
      · rw [show (text.fill w x).chars = text.chars from fill_of_not_mem x hmem]

theorem endsEntry_fill (t : Token) : endsEntry (t.fill w x) = endsEntry t := by cases t <;> rfl

theorem endsFlowValue_fill (t : Token) : endsFlowValue (t.fill w x) = endsFlowValue t := by cases t <;> rfl

theorem endsFlowKey_fill (t : Token) : endsFlowKey (t.fill w x) = endsFlowKey t := by cases t <;> rfl

section Step

variable {fuel : Nat} (h : NaturalWith w x fuel)
include h

theorem natural_node (ctx : Context) : Natural w x (node (fuel + 1) ctx) := by
  rw [node]
  refine natural_peek (fun t => by cases t <;> rfl) fun t _ => ?_
  split
  · refine natural_skip.bind fun _ _ => natural_get (fun _ => rfl) fun s => ?_
    split
    · exact natural_pure _
    · exact mirrors_refuse _
  · refine mirrors_properties.bind fun p hp => natural_peek (fun _ => rfl) fun _ _ =>
      natural_get (fun _ => rfl) fun s => ?_
    dsimp only
    split
    · exact mirrors_refuse _
    · exact h.content ctx p hp

theorem natural_content (ctx : Context) (p : Properties) (hp : p.tag ≠ some "!") :
    Natural w x (content (fuel + 1) ctx p) := by
  have hput {α : Type} (n : Node) (f : Compose α) (make : α → Node) (hn : n.fill w x = n)
      (hmake : ∀ a, (make a).fill w x = make a) (hf : Natural w x f) : Natural w x (do
      let id ← add p n
      put id (make (← f))
      pure id) :=
    (natural_add p hn).bind fun id _ => hf.bind fun a _ => (natural_put id (hmake a)).bind fun _ _ => natural_pure id
  rw [content]
  refine mirrors_peek fun t ht => ?_
  by_cases hscalar : ∃ text plain, t = .scalar text plain
  · -- only here does the text of a token go into what is made of it
    obtain ⟨text, plain, rfl⟩ := hscalar
    refine natural_skip.bind fun _ _ => mirrors_add p ?_
    rw [scalarTag_fill hp ht]
    rfl
  · rw [Token.fill_eq_self hscalar]
    split
    · exact hput _ _ _ rfl (fun _ => rfl) h.indentlessItems
    · exact absurd ⟨_, _, rfl⟩ hscalar
    · exact natural_skip.bind fun _ _ => hput _ _ _ rfl (fun _ => rfl) (h.flowItems true)
    · exact natural_skip.bind fun _ _ => hput _ _ _ rfl (fun _ => rfl) (h.flowEntries true)
    · exact natural_skip.bind fun _ _ => hput _ _ _ rfl (fun _ => rfl) h.blockItems
    · exact natural_skip.bind fun _ _ => hput _ _ _ rfl (fun _ => rfl) h.blockItems
    · exact natural_skip.bind fun _ _ => hput _ _ _ rfl (fun _ => rfl) h.blockEntries
    · exact natural_skip.bind fun _ _ => hput _ _ _ rfl (fun _ => rfl) h.blockEntries
    · split
      · exact mirrors_refuse _
      · exact natural_add _ rfl

theorem natural_nodeUnless (missing : Token → Bool) (ctx : Context)
    (hmissing : ∀ t : Token, missing (t.fill w x) = missing t) : Natural w x (nodeUnless (fuel + 1) missing ctx) := by
  rw [nodeUnless]
  refine natural_peek (fun t => by rw [hmissing]) fun t _ => ?_
  split
  · exact natural_addEmpty
  · exact h.node ctx

theorem natural_valueOf (missing : Token → Bool) (ctx : Context)
    (hmissing : ∀ t : Token, missing (t.fill w x) = missing t) : Natural w x (valueOf (fuel + 1) missing ctx) := by
  rw [valueOf]
  refine natural_peek (fun t => by cases t <;> rfl) fun t _ => ?_
  split
  · exact natural_skip.bind fun _ _ => h.nodeUnless missing ctx hmissing
  · exact natural_addEmpty

theorem natural_indentlessItems : Natural w x (indentlessItems (fuel + 1)) := by
  rw [indentlessItems]
  refine natural_peek (fun t => by cases t <;> rfl) fun t _ => ?_
  split
  · refine natural_skip.bind fun _ _ => (h.nodeUnless _ _ fun t => ?_).bind fun _ _ =>
      h.indentlessItems.bind fun _ _ => natural_pure _
    cases t <;> rfl
  · exact natural_pure _

theorem natural_blockItems : Natural w x (blockItems (fuel + 1)) := by
  rw [blockItems]
  refine natural_peek (fun t => by cases t <;> rfl) fun t _ => ?_
  split
  · refine natural_skip.bind fun _ _ => (h.nodeUnless _ _ fun t => ?_).bind fun _ _ =>
      h.blockItems.bind fun _ _ => natural_pure _
    cases t <;> rfl
  · exact natural_skip.bind fun _ _ => natural_pure _
  · exact mirrors_refuse _

theorem natural_blockEntries : Natural w x (blockEntries (fuel + 1)) := by
  rw [blockEntries]
  refine natural_peek (fun t => by cases t <;> rfl) fun t _ => ?_
  split
  · exact natural_skip.bind fun _ _ => (h.nodeUnless _ _ endsEntry_fill).bind fun _ _ =>
      (h.valueOf _ _ endsEntry_fill).bind fun _ _ => h.blockEntries.bind fun _ _ => natural_pure _
  · exact natural_skip.bind fun _ _ => natural_pure _
  · exact mirrors_refuse _

theorem natural_flowItems (first : Bool) : Natural w x (flowItems (fuel + 1) first) := by
  rw [flowItems]
  refine natural_peek (fun t => by cases t <;> rfl) fun t _ => ?_
  split
  · exact natural_skip.bind fun _ _ => natural_pure _
  · refine natural_unless first (natural_peek (fun t => by cases t <;> rfl) fun t _ => ?_)
    split
    · exact natural_skip.bind fun _ _ => (natural_add _ rfl).bind fun id _ =>
        (h.nodeUnless _ _ endsFlowKey_fill).bind fun _ _ => (h.valueOf _ _ endsFlowValue_fill).bind fun _ _ =>
          (natural_put id rfl).bind fun _ _ => (h.flowItems false).bind fun _ _ => natural_pure _
    · exact natural_skip.bind fun _ _ => natural_pure _
    · exact (h.node _).bind fun _ _ => (h.flowItems false).bind fun _ _ => natural_pure _

theorem natural_flowEntries (first : Bool) : Natural w x (flowEntries (fuel + 1) first) := by
  rw [flowEntries]
  refine natural_peek (fun t => by cases t <;> rfl) fun t _ => ?_
  split
  · exact natural_skip.bind fun _ _ => natural_pure _
  · refine natural_unless first (natural_peek (fun t => by cases t <;> rfl) fun t _ => ?_)
    split
    · exact natural_skip.bind fun _ _ => (h.nodeUnless _ _ endsFlowKey_fill).bind fun _ _ =>
        (h.valueOf _ _ endsFlowValue_fill).bind fun _ _ => (h.flowEntries false).bind fun _ _ => natural_pure _
    · exact natural_skip.bind fun _ _ => natural_pure _
    · exact (h.node _).bind fun _ _ => natural_addEmpty.bind fun _ _ => (h.flowEntries false).bind fun _ _ =>
        natural_pure _

end Step

theorem naturalWith (w : Char) (x : List Char) (fuel : Nat) : NaturalWith w x fuel := by
  induction fuel with
  | zero =>
      refine ⟨fun _ => ?_, fun _ _ _ => ?_, fun _ _ _ => ?_, fun _ _ _ => ?_, ?_, ?_, ?_, fun _ => ?_, fun _ => ?_⟩
      all_goals exact mirrors_refuse _
  | succ fuel h =>
      exact ⟨natural_node h, natural_content h, natural_nodeUnless h, natural_valueOf h, natural_indentlessItems h,
        natural_blockItems h, natural_blockEntries h, natural_flowItems h, natural_flowEntries h⟩

theorem natural_directives (fuel : Nat) (versioned : Bool) (handles : List (String × String)) :
    Natural w x (directives fuel versioned handles) := by
  induction fuel generalizing versioned handles with
  | zero => exact mirrors_refuse _
  | succ fuel ih =>
      rw [directives]
      refine natural_peek (fun t => by cases t <;> rfl) fun t _ => ?_
      split
      · refine natural_skip.bind fun _ _ => ?_
        split
        · split
          · exact mirrors_refuse _
          · exact ih _ _
        · split
          · exact mirrors_refuse _
          · exact ih _ _
        · exact ih _ _
      · exact natural_pure _

theorem natural_skipEnds (fuel : Nat) : Natural w x (skipEnds fuel) := by
  induction fuel with
  | zero => exact mirrors_refuse _
  | succ fuel ih =>
      rw [skipEnds]
      refine natural_peek (fun t => by cases t <;> rfl) fun t _ => ?_
      split
      · exact natural_skip.bind fun _ _ => ih
      · exact natural_pure _

theorem natural_streamEnd (fuel : Nat) : Natural w x (streamEnd fuel) := by
  rw [streamEnd]
  refine natural_peek (fun t => by cases t <;> rfl) fun t _ => ?_
  split
  · exact natural_pure _
  · exact (natural_directives _ _ _).bind fun _ _ => natural_peek (fun _ => rfl) fun _ _ => mirrors_refuse _

theorem natural_end (fuel root : Nat) : Natural w x (do
    skipEnds fuel
    streamEnd fuel
    pure (some root)) :=
  (natural_skipEnds fuel).bind fun _ _ => (natural_streamEnd fuel).bind fun _ _ => natural_pure _

theorem natural_document (fuel : Nat) : Natural w x (document fuel) := by
  rw [document]
  refine natural_peek (fun t => by cases t <;> rfl) fun t _ => ?_
  split
  · exact natural_pure _
  · split
    · refine (natural_directives _ _ _).bind fun handles _ => ?_
      refine (natural_modify (f := fun s => { s with handles := handles ++ defaultHandles })
        (fun _ => List.Subset.refl _) fun _ => rfl).bind
        fun _ _ => natural_peek (fun t => by cases t <;> rfl) fun t _ => ?_
      dsimp only
      split
      · refine natural_skip.bind fun _ _ => ?_
        refine ((naturalWith w x fuel).nodeUnless _ _ fun t => ?_).bind fun root _ => natural_end fuel root
        cases t <;> rfl
      · exact mirrors_refuse _
    · exact ((naturalWith w x fuel).node _).bind fun root _ => natural_end fuel root

end Composer

def Graph.fill (w : Char) (x : List Char) (g : Graph) : Graph := { g with nodes := g.nodes.map (Node.fill w x) }

/-- Filled tokens make the filled nodes. -/
theorem ofTokens_fill {w : Char} {x : List Char} {ts : List Token} (hts : ∀ t ∈ ts, t.Keeps w x) {g : Graph}
    (h : Graph.ofTokens ts = .ok g) : Graph.ofTokens (ts.map (Token.fill w x)) = .ok (g.fill w x) := by
  have hdocument := @Composer.natural_document w x (4 * ts.length + 8)
    ⟨ts, #[], [], Composer.defaultHandles⟩ hts
  obtain ⟨r, hr, heq⟩ := bind_eq_ok_iff.1 h
  cases heq
  rw [show Composer.document (4 * ts.length + 8) ⟨ts, #[], [], Composer.defaultHandles⟩ = .ok r from hr] at hdocument
  obtain ⟨_, hr', rfl, -⟩ := hdocument
  rw [Composer.fill, Array.map_empty] at hr'
  rw [Graph.ofTokens, List.length_map]
  exact bind_eq_ok_iff.2 ⟨_, hr', rfl⟩

end Workcell.Yaml
