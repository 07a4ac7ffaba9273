import Workcell.Yaml.Construction
import Workcell.Proofs.Yaml.Scanner

namespace Workcell.Yaml.Construction

/-- The errors of a construction that reads texts in some way. -/
inductive Fault (value : Tag → Nat → Except Error Datum) : Error → Prop
  | malformed : Fault value .malformed
  | endless : Fault value (.scalar .endless)
  | value {t : Tag} {leaf : Nat} {e : Error} : value t leaf = .error e → Fault value e

/-- Of what was read, all that has a value by one way of reading has one by the other. -/
def Agrees (value value' : Tag → Nat → Except Error Datum) (s : Construction) : Prop :=
  ∀ r ∈ s.readings, ∀ d, value r.tag r.leaf = .ok d → ∃ d', value' r.tag r.leaf = .ok d'

/-- From some state on, the one step fails by a fault, or only adds to what was made; and the other step does the
same wherever it reads what the one has read. -/
def FollowsAt (value value' : Tag → Nat → Except Error Datum) {α : Type} (s : Construction)
    (x x' : Construct α) : Prop :=
  Gives (Fault value) (fun r => s.made ⊆ r.2.made ∧ (r.2.Agrees value value' → x' s = .ok r)) (x s)

def Follows (value value' : Tag → Nat → Except Error Datum) {α : Type} (x x' : Construct α) : Prop :=
  ∀ s, FollowsAt value value' s x x'

section Follows

variable {value value' : Tag → Nat → Except Error Datum} {α β : Type} {s s' : Construction}

theorem Agrees.mono (h : s'.Agrees value value') (hmade : s.made ⊆ s'.made) : s.Agrees value value' :=
  fun r hr => h r (List.filterMap_subset _ hmade hr)

theorem FollowsAt.bind {x x' : Construct α} {f f' : α → Construct β} (hx : FollowsAt value value' s x x')
    (hf : ∀ a, Follows value value' (f a) (f' a)) : FollowsAt value value' s (x >>= f) (x' >>= f') := by
  refine Gives.bind hx fun r hr => ?_
  have hrest : Gives (Fault value) _ (f r.1 r.2) := hf r.1 r.2
  change Gives (Fault value) _ (f r.1 r.2)
  cases hresult : f r.1 r.2 with
  | error e => rwa [hresult] at hrest
  | ok r' =>
      rw [hresult] at hrest
      refine ⟨List.Subset.trans hr.1 hrest.1, fun hagrees => ?_⟩
      change (x' s >>= fun r => f' r.1 r.2) = _
      rw [hr.2 (hagrees.mono hrest.1)]
      exact hrest.2 hagrees

theorem Follows.bind {x x' : Construct α} {f f' : α → Construct β} (hx : Follows value value' x x')
    (hf : ∀ a, Follows value value' (f a) (f' a)) : Follows value value' (x >>= f) (x' >>= f') :=
  fun s => (hx s).bind hf

theorem follows_get {f f' : Construction → Construct α} (hf : ∀ s, FollowsAt value value' s (f s) (f' s)) :
    Follows value value' (get >>= f) (get >>= f') :=
  fun s => hf s

theorem follows_pure (a : α) : Follows value value' (pure a) (pure a) :=
  fun s => ⟨List.Subset.refl s.made, fun _ => rfl⟩

theorem follows_throw : Follows value value' (throw .malformed : Construct α) (throw .malformed) :=
  fun _ => .malformed

theorem followsAt_set {t : Construction} {x x' : Construct α} (h : s.made ⊆ t.made)
    (hx : Follows value value' x x') :
    FollowsAt value value' s (set t >>= fun _ => x) (set t >>= fun _ => x') := by
  have hset : FollowsAt value value' s (set t : Construct PUnit) (set t) := ⟨h, fun _ => rfl⟩
  exact hset.bind fun _ => hx

theorem followsAt_value {t : Tag} {leaf : Nat} {u : Construction} {x x' : Construct α} (hmade : s.made ⊆ u.made)
    (hread : ⟨t, leaf⟩ ∈ u.readings) (hx : Follows value value' x x') :
    FollowsAt value value' s (liftM (value t leaf) >>= fun _ => set u >>= fun _ => x)
      (liftM (value' t leaf) >>= fun _ => set u >>= fun _ => x') := by
  have hrest : Gives (Fault value) _ (x u) := hx u
  cases hvalue : value t leaf with
  | error e => exact Fault.value hvalue
  | ok d =>
      change Gives (Fault value) _ (x u)
      cases hresult : x u with
      | error e => rwa [hresult] at hrest
      | ok r =>
          rw [hresult] at hrest
          refine ⟨List.Subset.trans hmade hrest.1, fun hagrees => ?_⟩
          obtain ⟨d', hd'⟩ := hagrees.mono hrest.1 _ hread d hvalue
          rw [hd']
          exact hrest.2 hagrees

theorem follows_forM {f f' : α → Construct Unit} (hf : ∀ a, Follows value value' (f a) (f' a)) (l : List α) :
    Follows value value' (l.forM f) (l.forM f') := by
  induction l with
  | nil => exact follows_pure ()
  | cons a l ih => exact (hf a).bind fun _ => ih

theorem follows_mapM {f f' : α → Construct β} (hf : ∀ a, Follows value value' (f a) (f' a)) (l : List α) :
    Follows value value' (l.mapM f) (l.mapM f') := by
  induction l with
  | nil => exact follows_pure []
  | cons a l ih =>
      rw [List.mapM_cons, List.mapM_cons]
      exact (hf a).bind fun _ => ih.bind fun _ => follows_pure _

theorem fault_of_leaf {fuel id : Nat} {e : Error} (h : s.leaf fuel id = .error e) : Fault value e := by
  induction fuel generalizing id with
  | zero =>
      cases h
      exact .endless
  | succ fuel ih =>
      rw [leaf] at h
      split at h
      · cases h
      · cases h
        exact .malformed
      · split at h
        · exact ih h
        · cases h
          exact .malformed

theorem follows_flatten (fuel : Nat) (merged : List (Nat × Nat)) (id : Nat) :
    Follows value value' (flatten fuel merged id) (flatten fuel merged id) := by
  induction fuel generalizing merged id with
  | zero => exact follows_throw
  | succ fuel ih =>
      rw [flatten]
      refine follows_get fun s => ?_
      split
      · split
        · refine followsAt_set ?_ ((follows_mapM (ih []) _).bind fun _ => ih _ _)
          exact fun _ h => h
        · refine followsAt_set ?_ (follows_pure _)
          exact fun _ h => h
      · exact follows_throw s

theorem follows_make (id : Nat) : Follows value value' (make value id) (make value' id) := by
  refine follows_get fun s => ?_
  split
  · exact follows_pure _ s
  · split
    · refine followsAt_set ?_ (follows_pure _)
      exact List.subset_cons_self _ _
    · split
      · cases hleaf : s.leaf s.contents.size id with
        | error e => exact fault_of_leaf hleaf
        | ok leaf =>
            refine followsAt_value ?_ ?_ (follows_pure false)
            · exact List.subset_cons_self _ _
            · exact List.mem_cons_self
      · exact follows_throw s

theorem follows_makeEntry (hashed : Bool) (e : Nat × Nat) :
    Follows value value' (makeEntry value hashed e) (makeEntry value' hashed e) := by
  refine (follows_make e.1).bind fun collection => ?_
  split
  · exact follows_throw.bind fun _ => (follows_make e.2).bind fun _ => follows_pure ()
  · exact (follows_make e.2).bind fun _ => follows_pure ()

theorem follows_makePair (id : Nat) : Follows value value' (makePair value id) (makePair value' id) := by
  refine follows_get fun s => ?_
  split
  · exact follows_makeEntry _ _ s
  · exact follows_throw s

theorem follows_makeContent (id : Nat) : Follows value value' (makeContent value id) (makeContent value' id) := by
  refine follows_get fun s => ?_
  split
  · exact follows_forM (fun _ => (follows_make _).bind fun _ => follows_pure ()) _ s
  · exact ((follows_flatten _ _ _).bind fun _ => follows_forM (follows_makeEntry true) _) s
  · exact ((follows_flatten _ _ _).bind fun _ => follows_forM (follows_makeEntry true) _) s
  · exact follows_forM follows_makePair _ s
  · exact follows_forM follows_makePair _ s
  · exact follows_throw s

theorem follows_finish (fuel : Nat) : Follows value value' (finish value fuel) (finish value' fuel) := by
  induction fuel with
  | zero => exact follows_pure ()
  | succ fuel ih =>
      refine follows_get fun s => ?_
      split
      · exact follows_pure () s
      · refine followsAt_set ?_ ((follows_makeContent _).bind fun _ => ih)
        exact fun _ h => h

theorem follows_makeAll (value value' : Tag → Nat → Except Error Datum) (root : Nat) :
    Follows value value' (makeAll value root) (makeAll value' root) :=
  follows_get fun s => ((follows_make root).bind fun _ => follows_finish _) s

theorem fault_of_makeAll {root : Nat} {e : Error} (h : makeAll value root s = .error e) : Fault value e := by
  have hfollows := follows_makeAll value value root s
  rwa [FollowsAt, h] at hfollows

/-- The construction does not depend on the texts, as long as all that are read have values. -/
theorem makeAll_congr {root : Nat} (h : makeAll value root s = .ok ((), s')) (hagrees : s'.Agrees value value') :
    makeAll value' root s = .ok ((), s') := by
  have hfollows := follows_makeAll value value' root s
  rw [FollowsAt, h] at hfollows
  exact hfollows.2 hagrees

end Follows

section Flatten

variable {α β : Type} {s : Construction} {m : Nat × Nat → Bool} {n : Nat}

theorem countP_flatMap_set {a : α} (p : β → Bool) (f : α → List β) {l : List α} {i : Nat} (h : l[i]? = some a)
    (b : α) : ((l.set i b).flatMap f).countP p + (f a).countP p = (l.flatMap f).countP p + (f b).countP p := by
  induction l generalizing i with
  | nil => cases h
  | cons c l ih =>
      cases i with
      | zero =>
          obtain rfl : c = a := Option.some.inj h
          rw [List.set_cons_zero, List.flatMap_cons, List.flatMap_cons, List.countP_append, List.countP_append]
          omega
      | succ i =>
          have hrest := ih (i := i) h
          rw [List.set_cons_succ, List.flatMap_cons, List.flatMap_cons, List.countP_append, List.countP_append]
          omega

theorem countP_eraseP_add_one {p : α → Bool} {l : List α} {a : α} (h : l.find? p = some a) :
    (l.eraseP p).countP p + 1 = l.countP p := by
  induction l with
  | nil => cases h
  | cons b l ih =>
      cases hb : p b with
      | true => rw [List.eraseP_cons_of_pos hb, List.countP_cons_of_pos hb]
      | false =>
          rw [List.find?_cons_of_neg (by simp [hb])] at h
          rw [List.eraseP_cons_of_neg (by simp [hb]), List.countP_cons_of_neg (by simp [hb]),
            List.countP_cons_of_neg (by simp [hb]), ih h]

theorem getElem?_set_text (tags : Array Tag) (key id : Nat) (h : tags[key]?.getD .sequence ≠ .merge) :
    (tags.set! key .text)[id]?.getD .sequence = .merge ↔ tags[id]?.getD .sequence = .merge := by
  rw [Array.set!_eq_setIfInBounds, Array.getElem?_setIfInBounds]
  split
  · next heq =>
    subst heq
    refine iff_of_false ?_ h
    split <;> simp
  · rfl

/-- That value keys become texts does not matter for merge keys. -/
theorem isMerge_plainKeys (s : Construction) (keys : List Nat) : (s.plainKeys keys).isMerge = s.isMerge := by
  have htags (keys : List Nat) (tags : Array Tag) (h : ∀ key ∈ keys, tags[key]?.getD .sequence ≠ .merge) (id : Nat) :
      (keys.foldl (·.set! · .text) tags)[id]?.getD .sequence = .merge ↔ tags[id]?.getD .sequence = .merge := by
    induction keys generalizing tags with
    | nil => rfl
    | cons key keys ih =>
        rw [List.forall_mem_cons] at h
        have hset (id : Nat) := getElem?_set_text tags key id h.1
        rw [List.foldl_cons, ih _ fun k hk => mt (hset k).1 (h.2 k hk), hset]
  funext e
  refine decide_eq_decide.2 (htags _ _ (fun key hkey => ?_) e.1)
  have hvalue : s.tag key = .value := by simpa using (List.mem_filter.1 hkey).2
  rw [show s.tags[key]?.getD .sequence = .value from hvalue]
  decide

theorem mergeKeys_put {id : Nat} {own : List (Nat × Nat)} (h : s.content id = .mapping own)
    (new : List (Nat × Nat)) :
    (s.put id new).mergeKeys + own.countP s.isMerge = s.mergeKeys + new.countP s.isMerge := by
  have hcontent : s.contents.toList[id]? = some (.mapping own) := by
    rw [Array.getElem?_toList]
    rw [content] at h
    cases hfound : s.contents[id]? with
    | none =>
        rw [hfound] at h
        cases h
    | some c =>
        rw [hfound] at h
        exact congrArg some h
  have hput : (s.put id new).mergeKeys =
      ((s.contents.toList.set id (.mapping new)).flatMap Content.entries).countP s.isMerge := by
    rw [mergeKeys, put, Array.set!_eq_setIfInBounds, Array.toList_setIfInBounds]
    rfl
  rw [hput]
  exact countP_flatMap_set s.isMerge Content.entries hcontent (.mapping new)

/-- From states with the merge keys of `m`, at most `n` of them, two steps do the same, and lead to such a state. -/
def Alike (m : Nat × Nat → Bool) (n : Nat) (x x' : Construct α) (Q : α → Prop) : Prop :=
  ∀ s : Construction, s.isMerge = m → s.mergeKeys ≤ n →
    x s = x' s ∧ ∀ r, x s = .ok r → r.2.isMerge = m ∧ r.2.mergeKeys ≤ n ∧ Q r.1

theorem Alike.bind {x x' : Construct α} {f f' : α → Construct β} {Q : α → Prop} {R : β → Prop}
    (hx : Alike m n x x' Q) (hf : ∀ a, Q a → Alike m n (f a) (f' a) R) :
    Alike m n (x >>= f) (x' >>= f') R := by
  intro s hm hn
  obtain ⟨hsame, hresult⟩ := hx s hm hn
  change (x s >>= fun r => f r.1 r.2) = (x' s >>= fun r => f' r.1 r.2) ∧
    ∀ r, (x s >>= fun r => f r.1 r.2) = .ok r → _
  rw [← hsame]
  cases hs : x s with
  | error e => exact ⟨rfl, nofun⟩
  | ok r =>
      obtain ⟨hm', hn', hq⟩ := hresult r hs
      exact hf r.1 hq r.2 hm' hn'

theorem alike_pure {a : α} {Q : α → Prop} (h : Q a) : Alike m n (pure a) (pure a) Q := by
  intro s hm hn
  refine ⟨rfl, fun r hr => ?_⟩
  obtain rfl : (a, s) = r := Except.ok.inj hr
  exact ⟨hm, hn, h⟩

theorem alike_mapM {f f' : α → Construct β} {Q : β → Prop} (hf : ∀ a, Alike m n (f a) (f' a) Q) (l : List α) :
    Alike m n (l.mapM f) (l.mapM f') fun bs => ∀ b ∈ bs, Q b := by
  induction l with
  | nil => exact alike_pure nofun
  | cons a l ih =>
      rw [List.mapM_cons, List.mapM_cons]
      exact (hf a).bind fun b hb => ih.bind fun bs hbs => alike_pure (List.forall_mem_cons.2 ⟨hb, hbs⟩)

theorem get_bind (f : Construction → Construct α) (s : Construction) : (get >>= f) s = f s s := rfl

theorem flatten_of_find {own : List (Nat × Nat)} {e : Nat × Nat} {id : Nat} (hown : s.content id = .mapping own)
    (hfind : own.find? s.isMerge = some e) (fuel : Nat) (merged : List (Nat × Nat)) :
    flatten (fuel + 1) merged id s = (do
      let parts ← (s.sources e.2).mapM (flatten fuel [])
      flatten fuel (merged ++ parts.reverse.flatten) id : Construct _) (s.put id (own.eraseP s.isMerge)) := by
  rw [flatten, get_bind]
  simp only [hown, hfind]
  rfl

theorem flatten_of_none {own : List (Nat × Nat)} {id : Nat} (hown : s.content id = .mapping own)
    (hfind : own.find? s.isMerge = none) (fuel : Nat) (merged : List (Nat × Nat)) :
    flatten (fuel + 1) merged id s =
      .ok (merged ++ own, (s.plainKeys (own.map (·.1))).put id (merged ++ own)) := by
  rw [flatten, get_bind]
  simp only [hown, hfind]
  rfl

theorem flatten_of_not_mapping {id : Nat} (h : ∀ own, s.content id ≠ .mapping own) (fuel : Nat)
    (merged : List (Nat × Nat)) : flatten (fuel + 1) merged id s = .error .malformed := by
  rw [flatten, get_bind]
  cases hown : s.content id with
  | mapping own => exact absurd hown (h own)
  | scalar | sequence => rfl

/-- Each step of a merge takes a merge key away, so more steps than there are merge keys make no difference. -/
theorem alike_flatten {fuel fuel' : Nat} (hfuel : n < fuel) (hfuel' : n < fuel') (merged : List (Nat × Nat))
    (hmerged : ∀ e ∈ merged, ¬m e) (id : Nat) :
    Alike m n (flatten fuel merged id) (flatten fuel' merged id) fun own => ∀ e ∈ own, ¬m e := by
  induction fuel generalizing n fuel' merged id with
  | zero => exact absurd hfuel n.not_lt_zero
  | succ fuel ih =>
      obtain ⟨fuel', rfl⟩ := Nat.exists_eq_succ_of_ne_zero (Nat.ne_zero_of_lt hfuel')
      rintro s rfl hn
      by_cases hmapping : ∃ own, s.content id = .mapping own
      case neg =>
        rw [not_exists] at hmapping
        rw [flatten_of_not_mapping hmapping, flatten_of_not_mapping hmapping]
        exact ⟨rfl, nofun⟩
      obtain ⟨own, hown⟩ := hmapping
      cases hfind : own.find? s.isMerge with
      | some e =>
          rw [flatten_of_find hown hfind, flatten_of_find hown hfind]
          have hfewer := mergeKeys_put hown (own.eraseP s.isMerge)
          have hcount := countP_eraseP_add_one hfind
          obtain ⟨n, rfl⟩ : ∃ k, n = k + 1 := ⟨n - 1, by omega⟩
          have hrest := ih (Nat.lt_of_succ_lt_succ hfuel) (Nat.lt_of_succ_lt_succ hfuel')
          have hparts := alike_mapM (hrest [] nofun) (s.sources e.2)
          have hjoin := hparts.bind fun parts hclean => hrest (merged ++ parts.reverse.flatten) (by
            intro e he
            rcases List.mem_append.1 he with he | he
            · exact hmerged e he
            · obtain ⟨part, hpart, he⟩ := List.mem_flatten.1 he
              exact hclean part (List.mem_reverse.1 hpart) e he) id
          obtain ⟨hsame, hresult⟩ := hjoin (s.put id (own.eraseP s.isMerge)) rfl (by omega)
          refine ⟨hsame, fun r hr => ?_⟩
          obtain ⟨hm, hleft, hq⟩ := hresult r hr
          exact ⟨hm, Nat.le_succ_of_le hleft, hq⟩
      | none =>
          rw [flatten_of_none hown hfind, flatten_of_none hown hfind]
          refine ⟨rfl, fun r hr => ?_⟩
          obtain rfl := Except.ok.inj hr
          have hclean : ∀ e ∈ merged ++ own, ¬s.isMerge e := fun e he =>
            (List.mem_append.1 he).elim (hmerged e) (List.find?_eq_none.1 hfind e)
          have hkeys := isMerge_plainKeys s (own.map (·.1))
          have hput := mergeKeys_put (s := s.plainKeys (own.map (·.1))) hown (merged ++ own)
          rw [hkeys, List.countP_eq_zero.2 hclean] at hput
          have hsum : (s.plainKeys (own.map (·.1))).mergeKeys = s.mergeKeys := by
            rw [mergeKeys, hkeys]
            rfl
          exact ⟨hkeys, Nat.le_trans (Nat.le_of_add_right_le (Nat.le_of_eq hput)) (hsum ▸ hn), hclean⟩

theorem flatten_of_mergeKeys_lt {fuel : Nat} (h : s.mergeKeys < fuel) (id : Nat) :
    flatten fuel [] id s = flatten (s.mergeKeys + 1) [] id s :=
  (alike_flatten h s.mergeKeys.lt_succ_self [] nofun id s rfl (Nat.le_refl _)).1

end Flatten

end Workcell.Yaml.Construction
