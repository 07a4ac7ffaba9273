import Workcell.Yaml.Graph
import Workcell.Proofs.Yaml.Scanner

namespace Workcell.Yaml

namespace Composer

def Sound (s : Composer) : Prop := ∀ e, .fault e ∈ s.rest → TokenFault e

/-- Goes on soundly, or hands on a fault. -/
def Composes {α : Type} (x : Compose α) : Prop :=
  ∀ s : Composer, s.Sound → Gives TokenFault (fun r => Sound r.2) (x s)

variable {α β : Type}

theorem Composes.bind {x : Compose α} {f : α → Compose β} (hx : Composes x) (hf : ∀ a, Composes (f a)) :
    Composes (x >>= f) :=
  fun s hs => (hx s hs).bind fun r hr => hf r.1 r.2 hr

theorem composes_pure (a : α) : Composes (pure a) := fun _ hs => hs

theorem composes_refuse : Composes (refuse : Compose α) := fun _ _ => .malformed

theorem composes_get : Composes (get : Compose Composer) := fun _ hs => hs

theorem composes_modify {f : Composer → Composer} (hf : ∀ s, (f s).rest = s.rest) :
    Composes (modify f : Compose PUnit) := by
  intro s hs e he
  exact hs e (hf s ▸ he)

theorem composes_peek : Composes peek := by
  rintro ⟨rest, nodes, anchors, handles⟩ hs
  cases rest with
  | nil => exact .malformed
  | cons t r =>
      cases t with
      | fault e => exact hs e List.mem_cons_self
      | _ => exact hs

theorem composes_skip : Composes skip := by
  intro s hs e he
  exact hs e (List.mem_of_mem_drop he)

theorem composes_add (p : Properties) (n : Node) : Composes (add p n) := fun _ hs => hs

theorem composes_put (id : Nat) (n : Node) : Composes (put id n) := composes_modify fun _ => rfl

theorem composes_addEmpty : Composes addEmpty := composes_add _ _

theorem composes_anchor : Composes anchor := by
  refine composes_peek.bind fun t => ?_
  split
  · exact composes_skip.bind fun _ => composes_pure _
  · exact composes_pure _

theorem composes_tag : Composes tag := by
  refine composes_peek.bind fun t => ?_
  split
  · exact composes_skip.bind fun _ => composes_pure _
  · exact composes_pure _

theorem composes_expand (t : Option (Option String × String)) : Composes (expand t) := by
  rw [expand.eq_def]
  split
  · exact composes_pure _
  · exact composes_pure _
  · refine composes_get.bind fun s => ?_
    split
    · exact composes_pure _
    · exact composes_refuse

theorem composes_properties : Composes properties := by
  refine composes_anchor.bind fun a => ?_
  split
  · exact composes_tag.bind fun t => (composes_expand t).bind fun _ => composes_pure _
  · refine composes_tag.bind fun t => ?_
    split
    · exact composes_anchor.bind fun _ => (composes_expand _).bind fun _ => composes_pure _
    · exact composes_pure _

structure ComposesWith (fuel : Nat) : Prop where
  node : ∀ ctx, Composes (node fuel ctx)
  content : ∀ ctx p, Composes (content fuel ctx p)
  nodeUnless : ∀ missing ctx, Composes (nodeUnless fuel missing ctx)
  valueOf : ∀ missing ctx, Composes (valueOf fuel missing ctx)
  indentlessItems : Composes (indentlessItems fuel)
  blockItems : Composes (blockItems fuel)
  blockEntries : Composes (blockEntries fuel)
  flowItems : ∀ first, Composes (flowItems fuel first)
  flowEntries : ∀ first, Composes (flowEntries fuel first)

theorem composes_separator : Composes separator := by
  rw [separator]
  refine composes_peek.bind fun t => ?_
  split
  · exact composes_skip
  · exact composes_refuse

theorem composes_unless {f : Unit → Compose α} (first : Bool) (hf : Composes (f ())) :
    Composes (if first then f () else separator >>= f) := by
  split
  · exact hf
  · exact composes_separator.bind fun _ => hf

section Step

variable {fuel : Nat} (h : ComposesWith fuel)
include h

theorem composes_node (ctx : Context) : Composes (node (fuel + 1) ctx) := by
  rw [node]
  refine composes_peek.bind fun t => ?_
  split
  · refine composes_skip.bind fun _ => composes_get.bind fun s => ?_
    split
    · exact composes_pure _
    · exact composes_refuse
  · refine composes_properties.bind fun p => composes_peek.bind fun _ => composes_get.bind fun s => ?_
    dsimp only
    split
    · exact composes_refuse
    · exact h.content ctx p

theorem composes_content (ctx : Context) (p : Properties) : Composes (content (fuel + 1) ctx p) := by
  have hput {α : Type} (n : Node) (x : Compose α) (f : α → Node) (hx : Composes x) : Composes (do
      let id ← add p n
      put id (f (← x))
      pure id) :=
    (composes_add p n).bind fun id => hx.bind fun a => (composes_put id (f a)).bind fun _ => composes_pure id
  rw [content]
  refine composes_peek.bind fun t => ?_
  split
  · exact hput _ _ _ h.indentlessItems
  · exact composes_skip.bind fun _ => composes_add _ _
  · exact composes_skip.bind fun _ => hput _ _ _ (h.flowItems true)
  · exact composes_skip.bind fun _ => hput _ _ _ (h.flowEntries true)
  · exact composes_skip.bind fun _ => hput _ _ _ h.blockItems
  · exact composes_skip.bind fun _ => hput _ _ _ h.blockItems
  · exact composes_skip.bind fun _ => hput _ _ _ h.blockEntries
  · exact composes_skip.bind fun _ => hput _ _ _ h.blockEntries
  · split
    · exact composes_refuse
    · exact composes_add _ _

theorem composes_nodeUnless (missing : Token → Bool) (ctx : Context) :
    Composes (nodeUnless (fuel + 1) missing ctx) := by
  rw [nodeUnless]
  refine composes_peek.bind fun t => ?_
  split
  · exact composes_addEmpty
  · exact h.node ctx

theorem composes_valueOf (missing : Token → Bool) (ctx : Context) :
    Composes (valueOf (fuel + 1) missing ctx) := by
  rw [valueOf]
  refine composes_peek.bind fun t => ?_
  split
  · exact composes_skip.bind fun _ => h.nodeUnless missing ctx
  · exact composes_addEmpty

theorem composes_indentlessItems : Composes (indentlessItems (fuel + 1)) := by
  rw [indentlessItems]
  refine composes_peek.bind fun t => ?_
  split
  · exact composes_skip.bind fun _ => (h.nodeUnless _ _).bind fun _ =>
      h.indentlessItems.bind fun _ => composes_pure _
  · exact composes_pure _

theorem composes_blockItems : Composes (blockItems (fuel + 1)) := by
  rw [blockItems]
  refine composes_peek.bind fun t => ?_
  split
  · exact composes_skip.bind fun _ => (h.nodeUnless _ _).bind fun _ =>
      h.blockItems.bind fun _ => composes_pure _
  · exact composes_skip.bind fun _ => composes_pure _
  · exact composes_refuse

theorem composes_blockEntries : Composes (blockEntries (fuel + 1)) := by
  rw [blockEntries]
  refine composes_peek.bind fun t => ?_
  split
  · exact composes_skip.bind fun _ => (h.nodeUnless _ _).bind fun _ => (h.valueOf _ _).bind fun _ =>
      h.blockEntries.bind fun _ => composes_pure _
  · exact composes_skip.bind fun _ => composes_pure _
  · exact composes_refuse

theorem composes_flowItems (first : Bool) : Composes (flowItems (fuel + 1) first) := by
  rw [flowItems]
  refine composes_peek.bind fun t => ?_
  split
  · exact composes_skip.bind fun _ => composes_pure _
  · refine composes_unless first (composes_peek.bind fun t => ?_)
    split
    · exact composes_skip.bind fun _ => (composes_add _ _).bind fun id => (h.nodeUnless _ _).bind fun _ =>
        (h.valueOf _ _).bind fun _ => (composes_put id _).bind fun _ => (h.flowItems false).bind fun _ =>
          composes_pure _
    · exact composes_skip.bind fun _ => composes_pure _
    · exact (h.node _).bind fun _ => (h.flowItems false).bind fun _ => composes_pure _

theorem composes_flowEntries (first : Bool) : Composes (flowEntries (fuel + 1) first) := by
  rw [flowEntries]
  refine composes_peek.bind fun t => ?_
  split
  · exact composes_skip.bind fun _ => composes_pure _
  · refine composes_unless first (composes_peek.bind fun t => ?_)
    split
    · exact composes_skip.bind fun _ => (h.nodeUnless _ _).bind fun _ => (h.valueOf _ _).bind fun _ =>
        (h.flowEntries false).bind fun _ => composes_pure _
    · exact composes_skip.bind fun _ => composes_pure _
    · exact (h.node _).bind fun _ => composes_addEmpty.bind fun _ => (h.flowEntries false).bind fun _ =>
        composes_pure _

end Step

theorem composesWith (fuel : Nat) : ComposesWith fuel := by
  induction fuel with
  | zero =>
      refine ⟨fun _ => ?_, fun _ _ => ?_, fun _ _ => ?_, fun _ _ => ?_, ?_, ?_, ?_, fun _ => ?_, fun _ => ?_⟩
      all_goals exact composes_refuse
  | succ fuel h =>
      exact ⟨composes_node h, composes_content h, composes_nodeUnless h, composes_valueOf h,
        composes_indentlessItems h, composes_blockItems h, composes_blockEntries h, composes_flowItems h,
        composes_flowEntries h⟩

theorem composes_directives (fuel : Nat) (versioned : Bool) (handles : List (String × String)) :
    Composes (directives fuel versioned handles) := by
  induction fuel generalizing versioned handles with
  | zero => exact composes_refuse
  | succ fuel ih =>
      rw [directives]
      refine composes_peek.bind fun t => ?_
      split
      · refine composes_skip.bind fun _ => ?_
        split
        · split
          · exact composes_refuse
          · exact ih _ _
        · split
          · exact composes_refuse
          · exact ih _ _
        · exact ih _ _
      · exact composes_pure _

theorem composes_skipEnds (fuel : Nat) : Composes (skipEnds fuel) := by
  induction fuel with
  | zero => exact composes_refuse
  | succ fuel ih =>
      rw [skipEnds]
      refine composes_peek.bind fun t => ?_
      split
      · exact composes_skip.bind fun _ => ih
      · exact composes_pure _

theorem composes_streamEnd (fuel : Nat) : Composes (streamEnd fuel) := by
  rw [streamEnd]
  refine composes_peek.bind fun t => ?_
  split
  · exact composes_pure _
  · exact (composes_directives _ _ _).bind fun _ => composes_peek.bind fun _ => composes_refuse

theorem composes_end (fuel root : Nat) : Composes (do
    skipEnds fuel
    streamEnd fuel
    pure (some root)) :=
  (composes_skipEnds fuel).bind fun _ => (composes_streamEnd fuel).bind fun _ => composes_pure _

theorem composes_document (fuel : Nat) : Composes (document fuel) := by
  rw [document]
  refine composes_peek.bind fun t => ?_
  split
  · exact composes_pure _
  · split
    · refine (composes_directives _ _ _).bind fun handles => ?_
      refine (composes_modify (f := fun s => { s with handles := handles ++ defaultHandles }) fun _ => rfl).bind
        fun _ => composes_peek.bind fun t => ?_
      dsimp only
      split
      · exact composes_skip.bind fun _ => ((composesWith fuel).nodeUnless _ _).bind fun root =>
          composes_end fuel root
      · exact composes_refuse.bind fun _ => ((composesWith fuel).nodeUnless _ _).bind fun root =>
          composes_end fuel root
    · exact ((composesWith fuel).node _).bind fun root => composes_end fuel root

end Composer

/-- The errors of a graph are faults of its tokens. -/
theorem tokenFault_of_ofTokens {ts : List Token} (hts : ∀ e, .fault e ∈ ts → TokenFault e) {e : Error}
    (h : Graph.ofTokens ts = .error e) : TokenFault e := by
  have hgives : Gives TokenFault (fun _ => True) (Graph.ofTokens ts) :=
    (Composer.composes_document _ ⟨ts, #[], [], Composer.defaultHandles⟩ hts).bind fun _ _ => trivial
  rwa [h] at hgives

end Workcell.Yaml
