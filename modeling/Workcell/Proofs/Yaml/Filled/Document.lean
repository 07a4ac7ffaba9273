import Workcell.Proofs.Yaml.Filled.Graph
import Workcell.Proofs.Yaml.Document
import Workcell.Schema.Models

namespace Workcell

def fillText (w : Char) (x : List Char) (s : String) : String := String.ofList (Yaml.fill w x s.toList)

theorem fillText_of_not_mem {w : Char} (x : List Char) {s : String} (h : w ∉ s.toList) : fillText w x s = s := by
  rw [fillText, Yaml.fill_of_not_mem x h, String.ofList_toList]

namespace Datum

mutual

def fill (w : Char) (x : List Char) : Datum → Datum
  | .text s => .text (fillText w x s)
  | .list items => .list (fillItems w x items)
  | .mapping entries => .mapping (fillEntries w x entries)
  | d => d

def fillItems (w : Char) (x : List Char) : List Datum → List Datum
  | [] => []
  | d :: r => d.fill w x :: fillItems w x r

def fillEntries (w : Char) (x : List Char) : List (Datum × Datum) → List (Datum × Datum)
  | [] => []
  | (k, v) :: r => (k.fill w x, v.fill w x) :: fillEntries w x r

end

variable {w : Char} {x : List Char}

theorem fillItems_eq (items : List Datum) : fillItems w x items = items.map (fill w x) := by
  induction items with
  | nil => rfl
  | cons d r ih => rw [fillItems, ih, List.map_cons]

theorem fillEntries_eq (entries : List (Datum × Datum)) :
    fillEntries w x entries = entries.map fun e => (e.1.fill w x, e.2.fill w x) := by
  induction entries with
  | nil => rfl
  | cons e r ih => rw [fillEntries, ih, List.map_cons]

theorem map_fillItems {α : Type} (f : α → Datum) (l : List α) :
    (l.map fun a => (f a).fill w x) = fillItems w x (l.map f) := by
  rw [fillItems_eq, List.map_map]
  rfl

theorem map_fst_fillEntries (entries : List (Datum × Datum)) :
    (fillEntries w x entries).map (·.1) = fillItems w x (entries.map (·.1)) := by
  rw [fillEntries_eq, fillItems_eq, List.map_map, List.map_map]
  rfl

def KeysApart (w : Char) (x : List Char) (entries : List (Datum × Datum)) : Prop :=
  ∀ e ∈ entries, ∀ e' ∈ entries, ∀ s t, Schema.text e.1 = .valid s → Schema.text e'.1 = .valid t →
    fillText w x s = fillText w x t → s = t

/-- Data in which no bytes stand for the placeholder and no keys become the same. -/
inductive Ready (w : Char) (x : List Char) : Datum → Prop
  | leaf {d : Datum} : (∀ items, d ≠ .list items) → (∀ entries, d ≠ .mapping entries) →
      (∀ bs s, d = .bytes bs → Schema.text d = .valid s → w ∉ s.toList) → Ready w x d
  | list {items : List Datum} : (∀ d ∈ items, Ready w x d) → Ready w x (.list items)
  | mapping {entries : List (Datum × Datum)} : (∀ e ∈ entries, Ready w x e.1) → (∀ e ∈ entries, Ready w x e.2) →
      KeysApart w x entries → Ready w x (.mapping entries)

theorem ready_null : Datum.null.Ready w x := .leaf nofun nofun nofun

end Datum

namespace Yaml

open Datum

variable {w : Char} {x : List Char}

theorem exists_of_mapError {ε ε' α β : Type} {y : Except ε α} {f : α → β} {e : ε → ε'} {b : β}
    (h : (y.map f).mapError e = .ok b) : ∃ a, b = f a := by
  cases y with
  | error e' => cases h
  | ok a => exact ⟨a, (Except.ok.inj h).symm⟩

theorem fill_of_read {t : Tag} {text : ScalarText} {d : Datum} (hmem : w ∉ text.chars)
    (h : Scalar.read t text = some (.ok d)) : d.fill w x = d := by
  unfold Scalar.read at h
  dsimp only at h
  split at h
  case h_1 =>
    cases h
    rfl
  case h_2 =>
    split at h
    · cases h
      rfl
    · cases h
      rw [Datum.fill, fillText_of_not_mem x (by rwa [String.toList_ofList])]
  case h_7 =>
    split at h <;> cases h
    rfl
  case h_8 => exact nomatch h
  all_goals
    obtain ⟨a, rfl⟩ := exists_of_mapError (Option.some.inj h)
    rfl

theorem leaf_of_read {t : Tag} {text : ScalarText} {d : Datum} (h : Scalar.read t text = some (.ok d)) :
    (∀ items, d ≠ .list items) ∧ (∀ entries, d ≠ .mapping entries) ∧ ∀ bs, d = .bytes bs → t = .binary := by
  unfold Scalar.read at h
  dsimp only at h
  split at h
  case h_1 =>
    cases h
    exact ⟨nofun, nofun, nofun⟩
  case h_2 =>
    split at h <;> cases h <;> exact ⟨nofun, nofun, nofun⟩
  case h_7 =>
    split at h <;> cases h
    exact ⟨nofun, nofun, fun _ _ => rfl⟩
  case h_8 => exact nomatch h
  all_goals
    obtain ⟨a, rfl⟩ := exists_of_mapError (Option.some.inj h)
    exact ⟨nofun, nofun, nofun⟩

theorem Scalar.read_fill {t : Tag} {text : ScalarText} (h : w ∈ text.chars → t = .text) :
    Scalar.read t (text.fill w x) = (Scalar.read t text).map (Except.map (Datum.fill w x)) := by
  by_cases hmem : w ∈ text.chars
  · obtain rfl := h hmem
    rw [Scalar.read, Scalar.read]
    cases hbroken : text.broken <;> simp [ScalarText.fill, hbroken, Except.map, Datum.fill, fillText]
  · have hself : text.fill w x = text := by
      rw [ScalarText.fill, fill_of_not_mem x hmem]
    rw [hself]
    cases hread : Scalar.read t text with
    | none => rfl
    | some r =>
        cases r with
        | error e => rfl
        | ok d => rw [Option.map_some, Except.map, fill_of_read hmem hread]

namespace Construction

section Insert

theorem sameKey_fill {k k' : Datum}
    (h : ∀ s t, k = .text s → k' = .text t → fillText w x s = fillText w x t → s = t) :
    sameKey (k.fill w x) (k'.fill w x) = sameKey k k' := by
  cases k with
  | text s =>
      cases k' with
      | text t =>
          change (fillText w x s == fillText w x t) = (s == t)
          rw [Bool.eq_iff_iff, beq_iff_eq, beq_iff_eq]
          exact ⟨h s t rfl rfl, congrArg _⟩
      | _ => rfl
  | double n => cases n <;> cases k' <;> rfl
  | _ => cases k' <;> rfl

theorem mem_insert {key value : Datum} {table : List (Datum × Datum)} {e : Datum × Datum}
    (h : e ∈ insert key value table) :
    (e.1 = key ∨ ∃ e' ∈ table, e'.1 = e.1) ∧ (e.2 = value ∨ ∃ e' ∈ table, e'.2 = e.2) := by
  induction table with
  | nil =>
      obtain rfl := List.mem_singleton.1 h
      exact ⟨.inl rfl, .inl rfl⟩
  | cons p r ih =>
      obtain ⟨k, v⟩ := p
      have hhead : (k, v) ∈ (k, v) :: r := List.mem_cons_self
      have hrest (h : e ∈ r) : (∃ e' ∈ (k, v) :: r, e'.1 = e.1) ∧ ∃ e' ∈ (k, v) :: r, e'.2 = e.2 :=
        ⟨⟨e, List.mem_cons_of_mem _ h, rfl⟩, e, List.mem_cons_of_mem _ h, rfl⟩
      rw [insert] at h
      split at h
      · rcases List.mem_cons.1 h with rfl | hmem
        · exact ⟨.inr ⟨_, hhead, rfl⟩, .inl rfl⟩
        · exact ⟨.inr (hrest hmem).1, .inr (hrest hmem).2⟩
      · rcases List.mem_cons.1 h with rfl | hmem
        · exact ⟨.inr ⟨_, hhead, rfl⟩, .inr ⟨_, hhead, rfl⟩⟩
        · exact (ih hmem).imp (.imp_right fun ⟨e', he', heq⟩ => ⟨e', List.mem_cons_of_mem _ he', heq⟩)
            (.imp_right fun ⟨e', he', heq⟩ => ⟨e', List.mem_cons_of_mem _ he', heq⟩)

theorem insert_fill {key : Datum} (value : Datum) {table : List (Datum × Datum)}
    (h : ∀ e ∈ table, sameKey (e.1.fill w x) (key.fill w x) = sameKey e.1 key) :
    insert (key.fill w x) (value.fill w x) (fillEntries w x table) = fillEntries w x (insert key value table) := by
  induction table with
  | nil => rfl
  | cons p r ih =>
      obtain ⟨k, v⟩ := p
      rw [List.forall_mem_cons] at h
      rw [fillEntries, insert, insert, h.1, ih h.2]
      split <;> rfl

theorem mem_foldl_insert {α : Type} {k v : α → Datum} {l : List α} :
    ∀ e ∈ l.foldl (fun table a => insert (k a) (v a) table) [], (∃ a ∈ l, k a = e.1) ∧ ∃ a ∈ l, v a = e.2 := by
  refine List.foldlRecOn (motive := fun table : List (Datum × Datum) =>
    ∀ e ∈ table, (∃ a ∈ l, k a = e.1) ∧ ∃ a ∈ l, v a = e.2) l _ nofun fun table htable a ha e he => ?_
  obtain ⟨hkey, hvalue⟩ := mem_insert he
  constructor
  · rcases hkey with heq | ⟨e', he', heq⟩
    · exact ⟨a, ha, heq.symm⟩
    · exact heq ▸ (htable e' he').1
  · rcases hvalue with heq | ⟨e', he', heq⟩
    · exact ⟨a, ha, heq.symm⟩
    · exact heq ▸ (htable e' he').2

/-- Of keys that stay different when they are filled the filled mapping is made as the mapping is. -/
theorem foldl_insert_fill {α : Type} (k v : α → Datum) {l : List α}
    (h : ∀ a ∈ l, ∀ b ∈ l, sameKey ((k a).fill w x) ((k b).fill w x) = sameKey (k a) (k b)) :
    l.foldl (fun table a => insert ((k a).fill w x) ((v a).fill w x) table) [] =
      fillEntries w x (l.foldl (fun table a => insert (k a) (v a) table) []) := by
  refine (List.foldl_rel (r := fun table' table : List (Datum × Datum) =>
    table' = fillEntries w x table ∧ ∀ e ∈ table, ∃ a ∈ l, k a = e.1) (a := []) (b := []) ⟨rfl, nofun⟩ ?_).1
  rintro b hb _ table ⟨rfl, htable⟩
  refine ⟨insert_fill (v b) fun e he => ?_, fun e he => ?_⟩
  · obtain ⟨a, ha, heq⟩ := htable e he
    exact heq ▸ h a ha b hb
  · rcases (mem_insert he).1 with heq | ⟨e', he', heq⟩
    · exact ⟨b, hb, heq.symm⟩
    · exact heq ▸ htable e' he'

end Insert

end Construction

namespace Graph

variable {g : Graph} {s : Construction}

theorem node_fill (id : Nat) : (g.fill w x).node id = (g.node id).fill w x := by
  rw [node, node, fill, Array.getElem?_map]
  cases g.nodes[id]? <;> rfl

theorem blank_fill : (g.fill w x).blank = g.blank := by
  rw [blank, blank, fill, Array.map_map, Array.map_map]
  congr 2
  · funext n
    exact n.tag_fill w x
  · funext n
    cases n <;> rfl

def construction? (g : Graph) : Option Construction := g.root.bind fun root => (g.construct root).toOption

def charsOf (g : Graph) (r : Reading) : List Char :=
  match g.node r.leaf with
  | .scalar _ shown => shown.chars
  | _ => []

def textOf (g : Graph) (r : Reading) : Option String :=
  match g.value r.tag r.leaf with
  | .ok d => (Schema.text d).toExcept.toOption
  | .error _ => none

def keyText (g : Graph) (s : Construction) (id : Nat) : Option String := (s.reading? id).bind g.textOf

/-- What holds the placeholder is read as a text. -/
def HoldsTexts (w : Char) (g : Graph) : Prop :=
  ∀ s ∈ g.construction?, ∀ r ∈ s.readings, w ∈ g.charsOf r → r.tag = .text

def Unnamed (w : Char) (g : Graph) : Prop :=
  ∀ s ∈ g.construction?, ∀ r ∈ s.readings, ∀ t ∈ g.textOf r, w ∈ t.toList → r.tag = .text

/-- No two keys of a mapping become the same. -/
def KeysApart (w : Char) (x : List Char) (g : Graph) : Prop :=
  ∀ s ∈ g.construction?, ∀ id < s.contents.size, ∀ e ∈ s.entries id, ∀ e' ∈ s.entries id,
    ∀ t ∈ g.keyText s e.1, ∀ t' ∈ g.keyText s e'.1, fillText w x t = fillText w x t' → t = t'

theorem value_fill {r : Reading} (h : w ∈ g.charsOf r → r.tag = .text) :
    (g.fill w x).value r.tag r.leaf = (g.value r.tag r.leaf).map (Datum.fill w x) := by
  rw [value, value, node_fill]
  rw [charsOf] at h
  cases hnode : g.node r.leaf with
  | scalar t shown =>
      rw [hnode] at h
      dsimp only [Node.fill] at h ⊢
      rw [Scalar.read_fill h]
      cases Scalar.read r.tag shown <;> rfl
  | sequence | mapping => rfl

theorem construct_eq_ok_iff {root : Nat} :
    g.construct root = .ok s ↔ Construction.makeAll g.value root g.blank = .ok ((), s) := by
  rw [construct, bind_eq_ok_iff]
  constructor
  · rintro ⟨⟨_, s'⟩, hmade, hs⟩
    obtain rfl : s' = s := Except.ok.inj hs
    exact hmade
  · exact fun hmade => ⟨_, hmade, rfl⟩

theorem construction_eq {root : Nat} (hroot : g.root = some root) (h : g.construct root = .ok s) :
    g.construction? = some s := by
  rw [construction?, hroot, Option.bind_some, h]
  rfl

theorem mem_readings {id : Nat} {r : Reading} (h : s.reading? id = some r) : r ∈ s.readings := by
  rw [Construction.reading?, Option.join_eq_some_iff] at h
  obtain ⟨before, after, hmade, -⟩ := List.lookup_eq_some_iff.1 h
  refine List.mem_filterMap.2 ⟨(id, some r), ?_, rfl⟩
  rw [hmade]
  exact List.mem_append_right _ List.mem_cons_self

/-- The construction of a filled graph is that of the graph. -/
theorem construct_fill (hg : g.HoldsTexts w) {root : Nat} (hroot : g.root = some root)
    (h : g.construct root = .ok s) : (g.fill w x).construct root = .ok s := by
  have hmade := construct_eq_ok_iff.1 h
  rw [construct_eq_ok_iff, blank_fill]
  refine Construction.makeAll_congr hmade fun r hr d hd => ⟨d.fill w x, ?_⟩
  rw [value_fill (hg s (construction_eq hroot h) r hr), hd]
  rfl

theorem keyText_of_unfold {depth id : Nat} {t : String}
    (h : Schema.text (s.unfold g.value depth id) = .valid t) : g.keyText s id = some t := by
  cases depth with
  | zero => cases h
  | succ depth =>
      rw [Construction.unfold] at h
      dsimp only at h
      split at h
      · next r hreading =>
        rw [keyText, hreading, Option.bind_some, textOf]
        cases hvalue : g.value r.tag r.leaf with
        | error e =>
            rw [hvalue] at h
            cases h
        | ok d =>
            rw [hvalue] at h
            change (Schema.text d).toExcept.toOption = some t
            rw [show Schema.text d = .valid t from h]
            rfl
      all_goals cases h


theorem lt_of_mem_entries {id : Nat} {e : Nat × Nat} (h : e ∈ s.entries id) : id < s.contents.size := by
  rw [← Nat.not_le]
  intro hle
  rw [Construction.entries, Construction.content, Array.getElem?_eq_none hle] at h
  cases h

theorem exists_of_value {r : Reading} {d : Datum} (h : g.value r.tag r.leaf = .ok d) :
    ∃ shown, Scalar.read r.tag shown = some (.ok d) := by
  rw [value] at h
  split at h
  · next t shown _ =>
    cases hread : Scalar.read r.tag shown with
    | none =>
        rw [hread] at h
        cases h
    | some y =>
        rw [hread] at h
        obtain rfl : y = .ok d := h
        exact ⟨shown, hread⟩
  · cases h

theorem ready_of_value {r : Reading} {d : Datum} (h : g.value r.tag r.leaf = .ok d)
    (hunnamed : ∀ t ∈ g.textOf r, w ∈ t.toList → r.tag = .text) : d.Ready w x := by
  obtain ⟨shown, hread⟩ := exists_of_value h
  refine .leaf (fun items => ?_) (fun entries => ?_) fun bs t hbytes ht hmem => ?_
  · rintro rfl
    exact (leaf_of_read hread).1 items rfl
  · rintro rfl
    exact (leaf_of_read hread).2.1 entries rfl
  · subst hbytes
    have htext := hunnamed t (by rw [textOf, h]; dsimp only; rw [ht]; rfl) hmem
    rw [(leaf_of_read hread).2.2 bs rfl] at htext
    cases htext

section Unfold

variable (hkeys : g.KeysApart w x) (hs : g.construction? = some s)
include hkeys hs

theorem sameKey_unfold_fill (depth id : Nat) {e e' : Nat × Nat} (he : e ∈ s.entries id) (he' : e' ∈ s.entries id) :
    Construction.sameKey ((s.unfold g.value depth e.1).fill w x) ((s.unfold g.value depth e'.1).fill w x) =
      Construction.sameKey (s.unfold g.value depth e.1) (s.unfold g.value depth e'.1) :=
  Construction.sameKey_fill fun _ _ ht ht' => hkeys s hs id (lt_of_mem_entries he) e he e' he' _
    (keyText_of_unfold (by rw [ht]; rfl)) _ (keyText_of_unfold (by rw [ht']; rfl))

theorem unfold_fill (hg : g.HoldsTexts w) (depth id : Nat) :
    s.unfold (g.fill w x).value depth id = (s.unfold g.value depth id).fill w x := by
  induction depth generalizing id with
  | zero => rfl
  | succ depth ih =>
      have hentries := Construction.foldl_insert_fill (w := w) (x := x)
        (fun e : Nat × Nat => s.unfold g.value depth e.1) (fun e => s.unfold g.value depth e.2)
        fun _ he _ he' => sameKey_unfold_fill hkeys hs depth id he he'
      have hparts : s.unfold (g.fill w x).value depth = fun id => (s.unfold g.value depth id).fill w x := funext ih
      rw [Construction.unfold, Construction.unfold, hparts]
      simp only [hentries]
      cases hreading : s.reading? id with
      | some r =>
          dsimp only
          rw [value_fill (hg s hs r (mem_readings hreading))]
          cases g.value r.tag r.leaf <;> rfl
      | none =>
          cases s.content id with
          | sequence items =>
              cases s.tag id with
              | sequence => exact congrArg Datum.list (map_fillItems _ items)
              | mapping => rfl
              | set => exact congrArg Datum.list (map_fst_fillEntries _)
              | _ => exact congrArg Datum.list (map_fillItems
                  (fun e : Nat × Nat => .list [s.unfold g.value depth e.1, s.unfold g.value depth e.2]) _)
          | scalar | mapping =>
              cases s.tag id with
              | set => exact congrArg Datum.list (map_fst_fillEntries _)
              | _ => rfl

theorem ready_unfold (hunnamed : g.Unnamed w) (depth id : Nat) : (s.unfold g.value depth id).Ready w x := by
  induction depth generalizing id with
  | zero => exact ready_null
  | succ depth ih =>
      have hentries := Construction.mem_foldl_insert (k := fun e : Nat × Nat => s.unfold g.value depth e.1)
        (v := fun e => s.unfold g.value depth e.2) (l := s.entries id)
      rw [Construction.unfold]
      dsimp only
      split
      · next r hreading =>
        cases hvalue : g.value r.tag r.leaf with
        | error e => exact ready_null
        | ok d => exact ready_of_value hvalue (hunnamed s hs r (mem_readings hreading))
      · exact .list (by simpa using fun item _ => ih item)
      · refine .mapping (fun e he => ?_) (fun e he => ?_) fun e he e' he' t t' ht ht' => ?_
        · obtain ⟨⟨a, -, heq⟩, -⟩ := hentries e he
          exact heq ▸ ih a.1
        · obtain ⟨-, a, -, heq⟩ := hentries e he
          exact heq ▸ ih a.2
        · obtain ⟨⟨a, ha, heq⟩, -⟩ := hentries e he
          obtain ⟨⟨a', ha', heq'⟩, -⟩ := hentries e' he'
          exact hkeys s hs id (lt_of_mem_entries ha) a ha a' ha' _ (keyText_of_unfold (heq ▸ ht)) _
            (keyText_of_unfold (heq' ▸ ht'))
      · refine .list fun d hd => ?_
        obtain ⟨e, he, rfl⟩ := List.mem_map.1 hd
        obtain ⟨⟨a, -, heq⟩, -⟩ := hentries e he
        exact heq ▸ ih a.1
      · refine .list fun d hd => ?_
        obtain ⟨e, -, rfl⟩ := List.mem_map.1 hd
        exact .list (by simpa using ⟨ih e.1, ih e.2⟩)
      · exact ready_null

end Unfold

theorem datum_eq_ok {root : Nat} (hroot : g.root = some root) {d : Datum} (h : g.datum = .ok d) :
    ∃ s, g.construct root = .ok s ∧ s.unfold g.value greatestDepth root = d := by
  rw [datum, hroot] at h
  obtain ⟨s, hs, hd⟩ := bind_eq_ok_iff.1 h
  exact ⟨s, hs, Except.ok.inj hd⟩

/-- The data of a filled document are the filled data. -/
theorem datum_fill (hkeys : g.KeysApart w x) (hg : g.HoldsTexts w) {d : Datum} (h : g.datum = .ok d) :
    (g.fill w x).datum = .ok (d.fill w x) := by
  cases hroot : g.root with
  | none =>
      rw [datum, hroot] at h
      cases h
      rw [datum, show (g.fill w x).root = none from hroot]
      rfl
  | some root =>
      obtain ⟨s, hs, rfl⟩ := datum_eq_ok hroot h
      rw [datum, show (g.fill w x).root = some root from hroot]
      refine bind_eq_ok_iff.2 ⟨s, construct_fill hg hroot hs, ?_⟩
      rw [unfold_fill hkeys (construction_eq hroot hs) hg]
      rfl

theorem ready_datum (hunnamed : g.Unnamed w) (hkeys : g.KeysApart w x) {d : Datum} (h : g.datum = .ok d) :
    d.Ready w x := by
  cases hroot : g.root with
  | none =>
      rw [datum, hroot] at h
      cases h
      exact ready_null
  | some root =>
      obtain ⟨s, hs, rfl⟩ := datum_eq_ok hroot h
      exact ready_unfold hkeys (construction_eq hroot hs) hunnamed _ _


end Graph

end Yaml

end Workcell
