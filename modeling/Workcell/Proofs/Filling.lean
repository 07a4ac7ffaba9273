import Mathlib.Data.List.Induction
import Workcell.Proofs.Pairs
import Workcell.Proofs.Schema
import Workcell.Proofs.Spelling
import Workcell.Proofs.Yaml.Filled.Template
import Workcell.Settings.File

namespace Workcell

namespace Checked

variable {α β γ δ : Type} {R : α → β → Prop} {S : γ → δ → Prop} {x : Checked α} {y : Checked β}

def Keeps (R : α → β → Prop) (x : Checked α) (y : Checked β) : Prop := ∀ a, x = .valid a → ∃ b, y = .valid b ∧ R a b

theorem keeps_valid {a : α} {b : β} (h : R a b) : Keeps R (.valid a) (.valid b) := by
  rintro _ ⟨⟩
  exact ⟨b, rfl, h⟩

theorem keeps_invalid (problems : List Problem) (y : Checked β) : Keeps R (.invalid problems) y := nofun

theorem Keeps.map {f : α → γ} {g : β → δ} (hx : Keeps R x y) (hf : ∀ a b, R a b → S (f a) (g b)) :
    Keeps S (f <$> x) (g <$> y) := by
  intro c hc
  obtain ⟨a, ha, rfl⟩ := map_eq_valid_iff.1 hc
  obtain ⟨b, rfl, hab⟩ := hx a ha
  exact ⟨g b, rfl, hf a b hab⟩

theorem Keeps.seq {f : Checked (α → γ)} {g : Checked (β → δ)}
    (hf : Keeps (fun u v => ∀ a b, R a b → S (u a) (v b)) f g) (hx : Keeps R x y) : Keeps S (f <*> x) (g <*> y) := by
  intro c hc
  obtain ⟨u, a, hu, ha, rfl⟩ := seq_eq_valid_iff.1 hc
  obtain ⟨v, rfl, huv⟩ := hf u hu
  obtain ⟨b, rfl, hab⟩ := hx a ha
  exact ⟨v b, rfl, huv a b hab⟩

theorem Keeps.within {s s' : Step} (hx : Keeps R x y) : Keeps R (x.within s) (y.within s') := by
  intro a ha
  obtain ⟨b, hb, hab⟩ := hx a (within_eq_valid_iff.1 ha)
  exact ⟨b, within_eq_valid_iff.2 hb, hab⟩

end Checked

namespace Pairs

variable {w : Char} {x : List Char}

theorem putPair_of_not_mem {k v : String} {l : List (String × String)} (h : k ∉ l.map Prod.fst) :
    putPair k v l = l ++ [(k, v)] := by
  induction l with
  | nil => rfl
  | cons p r ih =>
      rw [List.map_cons, List.mem_cons, not_or] at h
      rw [putPair, if_neg (Ne.symm h.1), ih h.2, List.cons_append]

theorem entries_ofList {l : List (String × String)} (h : (l.map Prod.fst).Nodup) : (ofList l).entries = l := by
  induction l using List.reverseRecOn with
  | nil => rfl
  | append_singleton l p ih =>
      rw [List.map_append, List.nodup_append] at h
      have hnew : p.1 ∉ l.map Prod.fst := fun hmem => h.2.2 _ hmem _ List.mem_cons_self rfl
      rw [ofList, List.foldl_append]
      change putPair p.1 p.2 (ofList l).entries = l ++ [p]
      rw [ih h.1, putPair_of_not_mem hnew]

theorem ofList_entries (m : Pairs) : ofList m.entries = m := by
  obtain ⟨entries, hnodup⟩ := m
  have hentries := entries_ofList hnodup
  cases h : ofList entries
  rw [h] at hentries
  cases hentries
  rfl

def fill (w : Char) (x : List Char) (m : Pairs) : Pairs :=
  ofList (m.entries.map fun p => (fillText w x p.1, fillText w x p.2))

theorem putPair_fill {k v : String} {l : List (String × String)}
    (h : ∀ p ∈ l, fillText w x p.1 = fillText w x k → p.1 = k) :
    putPair (fillText w x k) (fillText w x v) (l.map fun p => (fillText w x p.1, fillText w x p.2)) =
      (putPair k v l).map fun p => (fillText w x p.1, fillText w x p.2) := by
  induction l with
  | nil => rfl
  | cons p r ih =>
      rw [List.forall_mem_cons] at h
      rw [List.map_cons, putPair, putPair, ih h.2]
      by_cases hk : p.1 = k
      · rw [if_pos hk, if_pos (congrArg _ hk), List.map_cons]
      · rw [if_neg hk, if_neg (mt h.1 hk), List.map_cons]

theorem ofList_fill {l : List (String × String)}
    (h : ∀ p ∈ l, ∀ q ∈ l, fillText w x p.1 = fillText w x q.1 → p.1 = q.1) :
    ofList (l.map fun p => (fillText w x p.1, fillText w x p.2)) = (ofList l).fill w x := by
  have hboth : (ofList (l.map fun p => (fillText w x p.1, fillText w x p.2))).entries =
      (ofList l).entries.map (fun p => (fillText w x p.1, fillText w x p.2)) ∧
        ∀ p ∈ (ofList l).entries, ∃ q ∈ l, q.1 = p.1 := by
    rw [ofList, ofList, List.foldl_map]
    refine List.foldl_rel (r := fun m' m : Pairs =>
      m'.entries = m.entries.map (fun p => (fillText w x p.1, fillText w x p.2)) ∧
        ∀ p ∈ m.entries, ∃ q ∈ l, q.1 = p.1) (a := .empty) (b := .empty) ⟨rfl, nofun⟩ ?_
    rintro q hq m' m ⟨heq, hkeys⟩
    constructor
    · change putPair _ _ m'.entries = (putPair q.1 q.2 m.entries).map _
      rw [heq, putPair_fill]
      intro p hp
      obtain ⟨p', hp', hkey⟩ := hkeys p hp
      exact hkey ▸ h p' hp' q hq
    · intro p hp
      have hmem : p.1 ∈ (m.insert q.1 q.2).keys := List.mem_map_of_mem hp
      rw [keys_insert] at hmem
      have hold (hmem : p.1 ∈ m.keys) : ∃ q ∈ l, q.1 = p.1 := by
        obtain ⟨p', hp', hkey⟩ := List.mem_map.1 hmem
        exact hkey ▸ hkeys p' hp'
      split at hmem
      · exact hold hmem
      · rcases List.mem_append.1 hmem with hmem | hmem
        · exact hold hmem
        · exact ⟨q, hq, (List.mem_singleton.1 hmem).symm⟩
  rw [fill, ← hboth.1, ofList_entries]

end Pairs

namespace MountSetting

def fill (w : Char) (x : List Char) (s : MountSetting) : MountSetting :=
  { s with path := fillText w x s.path, label := s.label.map (fillText w x) }

def names : List String := ["path", "read_only", "label"]

end MountSetting

namespace Settings

def fill (w : Char) (x : List Char) (s : Settings) : Settings :=
  { s with
    sandboxRead := s.sandboxRead.map (fillText w x)
    sandboxReadExecute := s.sandboxReadExecute.map (fillText w x)
    sandboxReadWrite := s.sandboxReadWrite.map (fillText w x)
    containerImage := s.containerImage.map (fillText w x)
    containerEngine := fillText w x s.containerEngine
    extraMounts := s.extraMounts.map (MountSetting.fill w x)
    redactions := s.redactions.fill w x }

def names : List String := ["sandbox", "sandbox_allow_network", "sandbox_read", "sandbox_read_execute",
  "sandbox_read_write", "container", "container_image", "container_allow_network", "container_engine",
  "extra_mounts", "redactions", "timeout"]

end Settings

namespace Datum

def text? : Datum → Option String
  | .text s => some s
  | _ => none

def items : Datum → List Datum
  | .list items => items
  | _ => []

def entries : Datum → List (Datum × Datum)
  | .mapping entries => entries
  | _ => []

def KeepsNames (w : Char) (x : List Char) (names : List String) (d : Datum) : Prop :=
  ∀ e ∈ d.entries, ∀ s ∈ e.1.text?, fillText w x s ∈ names → fillText w x s = s

instance (w : Char) (x : List Char) (names : List String) (d : Datum) : Decidable (d.KeepsNames w x names) :=
  inferInstanceAs (Decidable (∀ e ∈ d.entries, ∀ s ∈ e.1.text?, _ → _))

end Datum

namespace Schema

open Checked Datum

variable {w : Char} {x : List Char} {d : Datum} {α β : Type} {R : α → β → Prop} {φ : α → α}

theorem get?_fill {names : List String} {name : String} (hname : name ∈ names) (hw : w ∉ name.toList)
    {entries : List (Datum × Datum)} (h : (Datum.mapping entries).KeepsNames w x names) :
    Datum.get? name (fillEntries w x entries) = (Datum.get? name entries).map (Datum.fill w x) := by
  induction entries with
  | nil => rfl
  | cons e r ih =>
      obtain ⟨k, v⟩ := e
      obtain ⟨hhead, hrest⟩ := List.forall_mem_cons.1 h
      cases k with
      | text s =>
          have hsame : fillText w x s = name ↔ s = name := by
            constructor
            · intro heq
              rw [← hhead s rfl (heq ▸ hname), heq]
            · rintro rfl
              exact fillText_of_not_mem x hw
          rw [fillEntries, Datum.fill, Datum.get?, Datum.get?, ih hrest]
          by_cases hs : s = name
          · rw [if_pos hs, if_pos (hsame.2 hs), Option.map_some]
          · rw [if_neg hs, if_neg (mt hsame.1 hs)]
      | _ => exact ih hrest

theorem mem_of_get? {name : String} {entries : List (Datum × Datum)} (h : Datum.get? name entries = some d) :
    ∃ e ∈ entries, e.2 = d := by
  induction entries with
  | nil => cases h
  | cons e r ih =>
      have hrest (h : Datum.get? name r = some d) : ∃ e' ∈ e :: r, e'.2 = d := by
        obtain ⟨e', he', heq⟩ := ih h
        exact ⟨e', List.mem_cons_of_mem _ he', heq⟩
      obtain ⟨k, v⟩ := e
      cases k with
      | text s =>
          rw [Datum.get?] at h
          split at h
          · exact ⟨_, List.mem_cons_self, Option.some.inj h⟩
          · exact hrest h
      | _ => exact hrest h

/-- A check whose result for the filled data is the filled result. -/
abbrev Fills (w : Char) (x : List Char) (φ : α → α) (f : Datum → Checked α) (d : Datum) : Prop :=
  Keeps (fun a b => b = φ a) (f d) (f (d.fill w x))

theorem fills_text (hd : d.Ready w x) : Fills w x (fillText w x) text d := by
  cases d with
  | text s => exact keeps_valid rfl
  | bytes bs =>
      intro s hs
      cases hd with
      | leaf _ _ hbytes => exact ⟨s, hs, (fillText_of_not_mem x (hbytes bs s rfl hs)).symm⟩
  | _ => exact keeps_invalid _ _

section Scalar

variable (hw : 0x80 ≤ w.toNat)
include hw

theorem fills_bool (d : Datum) : Fills w x id bool d := by
  cases d with
  | text s =>
      intro b hb
      have hs : fillText w x s = s := fillText_of_not_mem x (not_mem_of_boolOfWord hw hb)
      exact ⟨b, by rw [Datum.fill, hs]; exact hb, rfl⟩
  | list items => exact keeps_invalid _ _
  | mapping entries => exact keeps_invalid _ _
  | _ => exact fun b hb => ⟨b, hb, rfl⟩

theorem fills_positive (hblank : Text.isBlank w = false) (d : Datum) : Fills w x id positive d := by
  cases d with
  | text s =>
      intro t ht
      have hs : fillText w x s = s := by
        obtain ⟨y, hy, -⟩ := andThen_eq_valid_iff.1 ht
        cases hread : Number.readLenient s with
        | none => simp [double, textual?, andThen, hread, fail] at hy
        | some y => exact fillText_of_not_mem x (Number.not_mem_of_readLenient hw hblank hread)
      exact ⟨t, by rw [Datum.fill, hs]; exact ht, rfl⟩
  | list items => exact keeps_invalid _ _
  | mapping entries => exact keeps_invalid _ _
  | _ => exact fun b hb => ⟨b, hb, rfl⟩

end Scalar

theorem fills_optional {f : Datum → Checked α} (h : Fills w x φ f d) : Fills w x (Option.map φ) (optional f) d := by
  cases d with
  | null => exact keeps_valid rfl
  | _ => exact h.map fun a b hab => by rw [hab]; rfl

theorem keeps_allIndexed {f : Datum → Checked α} {items : List Datum} (h : ∀ d ∈ items, Fills w x φ f d) (n : Nat) :
    Keeps (fun as bs => bs = as.map φ) (allIndexed f n items) (allIndexed f n (fillItems w x items)) := by
  induction items generalizing n with
  | nil => exact keeps_valid rfl
  | cons d r ih =>
      rw [List.forall_mem_cons] at h
      refine Keeps.seq (h.1.within.map fun a b hab as bs habs => ?_) (ih h.2 (n + 1))
      rw [hab, habs, List.map_cons]

theorem fills_list {f : Datum → Checked α} (h : ∀ items, d = .list items → ∀ d ∈ items, Fills w x φ f d) :
    Fills w x (List.map φ) (list f) d := by
  cases d with
  | list items => exact keeps_allIndexed (h items rfl) 0
  | _ => exact keeps_invalid _ _

theorem ready_of_mem {items : List Datum} (hd : (Datum.list items).Ready w x) (hmem : d ∈ items) : d.Ready w x := by
  cases hd with
  | leaf hlist _ _ => exact absurd rfl (hlist items)
  | list hitems => exact hitems d hmem

theorem fills_texts (hd : d.Ready w x) : Fills w x (List.map (fillText w x)) (list text) d :=
  fills_list fun _ heq _ hmem => fills_text (ready_of_mem (heq ▸ hd) hmem)

theorem keeps_all {f : Datum × Datum → Checked (String × String)} {entries : List (Datum × Datum)}
    {ψ : String × String → String × String}
    (h : ∀ e ∈ entries, Keeps (fun a b => b = ψ a) (f e) (f (e.1.fill w x, e.2.fill w x))) :
    Keeps (fun as bs => bs = as.map ψ) (all f entries) (all f (fillEntries w x entries)) := by
  induction entries with
  | nil => exact keeps_valid rfl
  | cons e r ih =>
      rw [List.forall_mem_cons] at h
      refine Keeps.seq (h.1.map fun a b hab as bs habs => ?_) (ih h.2)
      rw [hab, habs, List.map_cons]

theorem exists_of_mem_all {f : Datum × Datum → Checked (String × String)} {entries : List (Datum × Datum)}
    {l : List (String × String)} (h : all f entries = .valid l) : ∀ p ∈ l, ∃ e ∈ entries, f e = .valid p := by
  induction entries generalizing l with
  | nil =>
      cases h
      nofun
  | cons e r ih =>
      obtain ⟨g, l', hg, hl', rfl⟩ := seq_eq_valid_iff.1 h
      obtain ⟨p, hp, rfl⟩ := map_eq_valid_iff.1 hg
      rw [List.forall_mem_cons]
      refine ⟨⟨e, List.mem_cons_self, hp⟩, fun q hq => ?_⟩
      obtain ⟨e', he', heq⟩ := ih hl' q hq
      exact ⟨e', List.mem_cons_of_mem _ he', heq⟩

theorem text_of_pair {e : Datum × Datum} {p : String × String} (h : pair e = .valid p) : text e.1 = .valid p.1 := by
  obtain ⟨g, v, hg, -, rfl⟩ := seq_eq_valid_iff.1 h
  obtain ⟨k, hk, rfl⟩ := map_eq_valid_iff.1 hg
  exact within_eq_valid_iff.1 (within_eq_valid_iff.1 hk)

theorem fills_pairs (hd : d.Ready w x) : Fills w x (Pairs.fill w x) pairs d := by
  cases hd with
  | mapping hkeys hvalues hapart =>
      have hall := @keeps_all w x pair _ (fun p => (fillText w x p.1, fillText w x p.2)) fun e he =>
        Keeps.seq ((fills_text (hkeys e he)).within.within.map fun a b hab c d hcd => by rw [hab, hcd])
          (fills_text (hvalues e he)).within
      intro m hm
      obtain ⟨l, hl, rfl⟩ := map_eq_valid_iff.1 hm
      obtain ⟨_, hl', rfl⟩ := hall l hl
      refine ⟨_, map_eq_valid_iff.2 ⟨_, hl', rfl⟩, Pairs.ofList_fill fun p hp q hq heq => ?_⟩
      obtain ⟨e, he, hpair⟩ := exists_of_mem_all hl p hp
      obtain ⟨e', he', hpair'⟩ := exists_of_mem_all hl q hq
      exact hapart e he e' he' p.1 q.1 (text_of_pair hpair) (text_of_pair hpair') heq
  | leaf hlist hmapping hbytes =>
      cases d with
      | mapping entries => exact absurd rfl (hmapping entries)
      | _ => exact keeps_invalid _ _
  | list hitems => exact keeps_invalid _ _

section Fields

variable {names : List String} {name : String} {entries : List (Datum × Datum)}

theorem keeps_fieldOr (hname : name ∈ names) (hw : w ∉ name.toList)
    (hentries : (Datum.mapping entries).KeepsNames w x names)
    {default : α} {f : Datum → Checked α} (hdefault : φ default = default)
    (h : ∀ d, Datum.get? name entries = some d → Fills w x φ f d) :
    Keeps (fun a b => b = φ a) (fieldOr name default f entries) (fieldOr name default f (fillEntries w x entries)) := by
  rw [fieldOr, fieldOr, get?_fill hname hw hentries]
  cases hd : Datum.get? name entries with
  | none => exact keeps_valid hdefault.symm
  | some d => exact (h d hd).within

theorem keeps_field (hname : name ∈ names) (hw : w ∉ name.toList)
    (hentries : (Datum.mapping entries).KeepsNames w x names)
    {f : Datum → Checked α} (h : ∀ d, Datum.get? name entries = some d → Fills w x φ f d) :
    Keeps (fun a b => b = φ a) (field name f entries) (field name f (fillEntries w x entries)) := by
  rw [field, field, get?_fill hname hw hentries]
  cases hd : Datum.get? name entries with
  | none => exact keeps_invalid _ _
  | some d => exact (h d hd).within

theorem ready_of_get? (hd : (Datum.mapping entries).Ready w x) (h : Datum.get? name entries = some d) :
    d.Ready w x := by
  cases hd with
  | leaf _ hmapping _ => exact absurd rfl (hmapping entries)
  | mapping _ hvalues _ =>
      obtain ⟨e, he, rfl⟩ := mem_of_get? h
      exact hvalues e he

variable (hw : 0x80 ≤ w.toNat)
include hw

theorem fills_mountSetting (hd : d.Ready w x)
    (hnames : d.KeepsNames w x MountSetting.names) :
    Fills w x (MountSetting.fill w x) mountSetting d := by
  cases d with
  | mapping entries =>
      have hnames' : ∀ name ∈ MountSetting.names, IsAscii name.toList := by decide
      have hascii (name : String) (hname : name ∈ MountSetting.names) : w ∉ name.toList :=
        (hnames' name hname).not_mem hw
      have hpath := keeps_field (by decide) (hascii "path" (by decide)) hnames fun d h =>
        fills_text (ready_of_get? hd h)
      have hreadOnly := keeps_fieldOr (φ := id) (by decide) (hascii "read_only" (by decide)) hnames
        (show id false = false from rfl) fun d _ => fills_bool hw d
      have hlabel := keeps_fieldOr (by decide) (hascii "label" (by decide)) hnames (Option.map_none (fillText w x))
        fun d h => fills_optional (fills_text (ready_of_get? hd h))
      refine ((hpath.map ?_).seq hreadOnly).seq hlabel
      rintro a _ rfl b _ rfl c _ rfl
      rfl
  | _ => exact keeps_invalid _ _

end Fields

section Settings

variable {entries : List (Datum × Datum)}

def KeepsFields (w : Char) (x : List Char) (entries : List (Datum × Datum)) : Prop :=
  (Datum.mapping entries).KeepsNames w x Settings.names ∧
    ∀ mounts ∈ Datum.get? "extra_mounts" entries, ∀ d ∈ mounts.items, d.KeepsNames w x MountSetting.names

instance (w : Char) (x : List Char) (entries : List (Datum × Datum)) : Decidable (KeepsFields w x entries) :=
  inferInstanceAs (Decidable (_ ∧ ∀ mounts ∈ Datum.get? "extra_mounts" entries, ∀ d ∈ mounts.items, _))

variable (hw : 0x80 ≤ w.toNat) (hblank : Text.isBlank w = false)
include hw hblank

theorem fills_settings (hd : (Datum.mapping entries).Ready w x) (hfields : KeepsFields w x entries) :
    Fills w x (Settings.fill w x) settings (.mapping entries) := by
  obtain ⟨hentries, hmounts⟩ := hfields
  have hnames : ∀ name ∈ Settings.names, IsAscii name.toList := by decide
  have hascii (name : String) (hname : name ∈ Settings.names) : w ∉ name.toList := (hnames name hname).not_mem hw
  have hbool (name : String) (hname : name ∈ Settings.names) :=
    keeps_fieldOr (φ := id) hname (hascii name hname) hentries (show id false = false from rfl) fun d _ =>
      fills_bool hw d
  have htexts (name : String) (hname : name ∈ Settings.names) :=
    keeps_fieldOr hname (hascii name hname) hentries (List.map_nil (f := fillText w x)) fun d h =>
      fills_texts (ready_of_get? hd h)
  have himage := keeps_fieldOr (by decide) (hascii "container_image" (by decide)) hentries
    (Option.map_none (fillText w x)) fun d h => fills_optional (fills_text (ready_of_get? hd h))
  have hdefault : fillText w x defaultEngine = defaultEngine :=
    fillText_of_not_mem x (IsAscii.not_mem (by decide) hw)
  have hengine := keeps_fieldOr (by decide) (hascii "container_engine" (by decide)) hentries hdefault fun d h =>
    fills_text (ready_of_get? hd h)
  have hmount (items : List Datum) (h : Datum.get? "extra_mounts" entries = some (.list items)) :
      ∀ d ∈ items, Fills w x (MountSetting.fill w x) mountSetting d := fun d hmem =>
    fills_mountSetting hw (ready_of_mem (ready_of_get? hd h) hmem) (hmounts _ h d hmem)
  have hextra := keeps_fieldOr (by decide) (hascii "extra_mounts" (by decide)) hentries
    (List.map_nil (f := MountSetting.fill w x)) fun d h => fills_list fun items heq => hmount items (heq ▸ h)
  have hredactions := keeps_fieldOr (by decide) (hascii "redactions" (by decide)) hentries
    (show Pairs.fill w x .empty = .empty from rfl) fun d h => fills_pairs (ready_of_get? hd h)
  have htimeout := keeps_fieldOr (φ := Option.map id) (by decide) (hascii "timeout" (by decide)) hentries
    (Option.map_none id) fun d _ => fills_optional (fills_positive hw hblank d)
  refine ((((((((((((hbool "sandbox" (by decide)).map ?_).seq (hbool "sandbox_allow_network" (by decide))).seq
    (htexts "sandbox_read" (by decide))).seq (htexts "sandbox_read_execute" (by decide))).seq
    (htexts "sandbox_read_write" (by decide))).seq (hbool "container" (by decide))).seq himage).seq
    (hbool "container_allow_network" (by decide))).seq hengine).seq hextra).seq hredactions).seq htimeout
  rintro _ _ rfl _ _ rfl _ _ rfl _ _ rfl _ _ rfl _ _ rfl _ _ rfl _ _ rfl _ _ rfl _ _ rfl _ _ rfl t _ rfl
  rw [Option.map_id]
  rfl

end Settings

end Schema

namespace Settings

variable {w : Char} {x : List Char}

def KeepsNames (w : Char) (x : List Char) (d : Datum) : Prop :=
  d.KeepsNames w x ["runner"] ∧ ∀ entries, entriesOf d = .ok entries → Schema.KeepsFields w x entries

instance (w : Char) (x : List Char) (d : Datum) : Decidable (KeepsNames w x d) :=
  inferInstanceAs (Decidable (_ ∧ ∀ entries, entriesOf d = .ok entries → _))

section OfDatum

variable (hw : 0x80 ≤ w.toNat) {d : Datum} {s : Settings}

theorem ready_of_entriesOf (hd : d.Ready w x) {entries : List (Datum × Datum)} (h : entriesOf d = .ok entries) :
    (Datum.mapping entries).Ready w x := by
  cases d with
  | null =>
      cases h
      exact .mapping nofun nofun nofun
  | mapping top =>
      rw [entriesOf] at h
      split at h
      · next inner hinner =>
        cases h
        exact Schema.ready_of_get? hd hinner
      · cases h
        exact hd
  | _ => cases h

include hw

theorem entriesOf_fill (hnames : KeepsNames w x d) {entries : List (Datum × Datum)} (h : entriesOf d = .ok entries) :
    entriesOf (d.fill w x) = .ok (Datum.fillEntries w x entries) := by
  cases d with
  | null =>
      cases h
      rfl
  | mapping top =>
      have hascii : IsAscii "runner".toList := by decide
      have hrunner := Schema.get?_fill List.mem_cons_self (hascii.not_mem hw) hnames.1
      rw [entriesOf] at h
      rw [Datum.fill, entriesOf, hrunner]
      cases hget : Datum.get? "runner" top with
      | none =>
          rw [hget] at h
          cases h
          rfl
      | some d =>
          rw [hget] at h
          cases d <;> cases h <;> rfl
  | _ => cases h

theorem ofDatum_fill (hblank : Text.isBlank w = false) (hd : d.Ready w x) (hnames : KeepsNames w x d)
    (h : ofDatum d = .ok s) : ofDatum (d.fill w x) = .ok (s.fill w x) := by
  rw [ofDatum] at h
  split at h
  · cases h
  · next entries hentries =>
    split at h
    · next s' hs =>
      cases h
      obtain ⟨_, hs', rfl⟩ := Schema.fills_settings hw hblank (ready_of_entriesOf hd hentries)
        (hnames.2 entries hentries) s hs
      rw [Datum.fill] at hs'
      rw [ofDatum, entriesOf_fill hw hnames hentries]
      dsimp only
      rw [hs']
    · split at h <;> cases h

end OfDatum

/-- What may be written for the placeholder of a text of settings. -/
structure Fits (w : Char) (x a : List Char) : Prop extends Yaml.Fits w x a where
  names : ∀ d, Yaml.read (String.ofList a) = .ok d → KeepsNames w x d

instance (w : Char) (x a : List Char) : Decidable (Fits w x a) :=
  decidable_of_iff (_ ∧ _) ⟨fun ⟨h₁, h₂⟩ => ⟨h₁, h₂⟩, fun ⟨h₁, h₂⟩ => ⟨h₁, h₂⟩⟩

/-- What fits a text of settings may be written for its placeholder before it is read or after. -/
theorem ofText_fill {a : List Char} (htemplate : Yaml.Template w a) (hfits : Fits w x a) {s : Settings}
    (h : ofText (String.ofList a) = .ok s) : ofText (String.ofList (Yaml.fill w x a)) = .ok (s.fill w x) := by
  have hlow := hfits.fillable.low
  have hw : 0x80 ≤ w.toNat := by omega
  have hblank : Text.isBlank w = false := by
    rw [Text.isBlank]
    simp
    omega
  rw [ofText, ofTextBy] at h
  cases hread : Yaml.read (String.ofList a) with
  | error e => cases e <;> simp [hread] at h
  | ok d =>
      rw [hread] at h
      obtain ⟨hready, hfilled⟩ := Yaml.read_fill htemplate hfits.toFits hread
      rw [ofText, ofTextBy, hfilled]
      exact ofDatum_fill hw hblank hready (hfits.names d hread) h

end Settings

end Workcell
