import Workcell.Proofs.Yaml.Filled.Document

namespace Workcell.Yaml

section Decide

variable {ε α : Type} {P : α → Prop} [DecidablePred P]

instance decidableOfEveryResult (y : Except ε α) : Decidable (∀ a, y = .ok a → P a) :=
  match y with
  | .ok a => decidable_of_iff (P a) ⟨fun h _ hb => Except.ok.inj hb ▸ h, fun h => h a rfl⟩
  | .error _ => .isTrue nofun

instance decidableOfSomeResult (y : Except ε α) : Decidable (∃ a, y = .ok a ∧ P a) :=
  match y with
  | .ok a => decidable_of_iff (P a) ⟨fun h => ⟨a, rfl, h⟩, fun ⟨_, hb, h⟩ => Except.ok.inj hb ▸ h⟩
  | .error _ => .isFalse nofun

end Decide

section Cursor

open Cursor

variable {w : Char} {x a : List Char}

theorem sameMarks_iff : SameMarks w x a ↔ ∀ n ≤ a.length, (after a n).column = 0 →
    (after (fill w x a) (fill w x (a.take n)).length).atDocumentMark = (after a n).atDocumentMark := by
  constructor
  · exact fun h n hn => h _ _ ⟨n, Nat.zero_le n, hn, rfl, rfl⟩
  · rintro h _ _ ⟨n, -, hn, rfl, rfl⟩
    exact h n hn

instance : Decidable (SameMarks w x a) := decidable_of_iff _ sameMarks_iff.symm

theorem unnamed_iff : Unnamed w a ↔ ∀ n ≤ a.length, (after a n).rest.head? = some '\\' →
    ∀ p, escape (after a n) = .ok p → w ∉ p.1.chars := by
  constructor
  · exact fun h n _ hhead p hp => h n p.1 p.2 hhead hp
  · intro h n t d hhead hescape
    have hn : n ≤ a.length := by
      rw [← Nat.not_lt]
      intro hlt
      rw [rest_after, List.drop_eq_nil_of_le hlt.le] at hhead
      cases hhead
    exact h n hn hhead (t, d) hescape

instance : Decidable (Unnamed w a) := decidable_of_iff _ unnamed_iff.symm

end Cursor

instance (w : Char) (x : List Char) : Decidable (Fillable w x) :=
  decidable_of_iff (_ ∧ _ ∧ _ ∧ _ ∧ _ ∧ _) ⟨fun ⟨h₁, h₂, h₃, h₄, h₅, h₆⟩ => ⟨h₁, h₂, h₃, h₄, h₅, h₆⟩,
    fun ⟨h₁, h₂, h₃, h₄, h₅, h₆⟩ => ⟨h₁, h₂, h₃, h₄, h₅, h₆⟩⟩

instance (w : Char) (x : List Char) : (t : Token) → Decidable (t.Keeps w x)
  | .scalar text true =>
    inferInstanceAs (Decidable (w ∈ text.chars → Tag.ofPlain (fill w x text.chars) = Tag.ofPlain text.chars))
  | .tag _ suffix => inferInstanceAs (Decidable (suffix ≠ "" ∧ suffix ≠ "!"))
  | .scalar _ false | .directive _ | .documentStart | .documentEnd | .streamEnd | .blockSequenceStart
  | .blockMappingStart | .blockEnd | .flowSequenceStart | .flowSequenceEnd | .flowMappingStart | .flowMappingEnd
  | .blockEntry | .flowEntry | .key | .value | .alias _ | .anchor _ | .fault _ => .isTrue trivial

namespace Graph

variable (w : Char) (x : List Char) (g : Graph)

instance : Decidable (g.HoldsTexts w) :=
  inferInstanceAs (Decidable (∀ s ∈ g.construction?, ∀ r ∈ s.readings, _ → _))

instance : Decidable (g.Unnamed w) :=
  inferInstanceAs (Decidable (∀ s ∈ g.construction?, ∀ r ∈ s.readings, ∀ t ∈ g.textOf r, _ → _))

instance : Decidable (g.KeysApart w x) :=
  inferInstanceAs (Decidable (∀ s ∈ g.construction?, ∀ id < s.contents.size, ∀ e ∈ s.entries id,
    ∀ e' ∈ s.entries id, ∀ t ∈ g.keyText s e.1, ∀ t' ∈ g.keyText s e'.1, fillText w x t = fillText w x t' → t = t'))

end Graph

/-- A document whose placeholder stands in scalars that are texts, and only there. -/
structure Template (w : Char) (a : List Char) : Prop where
  unnamed : Cursor.Unnamed w a
  orderly : ∃ ps, Scanner.steps a = .ok ps ∧ ∀ p ∈ ps, p.1.Orderly
  texts : ∀ g, Graph.ofTokens (tokens a) = .ok g → g.HoldsTexts w ∧ g.Unnamed w

/-- What may be written for the placeholder of a document: it fits the style of each scalar that holds the
placeholder, and neither marks of documents nor types nor keys change with it. -/
structure Fits (w : Char) (x a : List Char) : Prop where
  fillable : Fillable w x
  marks : Cursor.SameMarks w x a
  admits : ∀ ps, Scanner.steps a = .ok ps → ∀ p ∈ ps, Scanner.Admits w x a p.1 p.2
  keeps : ∀ t ∈ tokens a, t.Keeps w x
  keys : ∀ g, Graph.ofTokens (tokens a) = .ok g → g.KeysApart w x

instance (w : Char) (a : List Char) : Decidable (Template w a) :=
  decidable_of_iff (_ ∧ _ ∧ _) ⟨fun ⟨h₁, h₂, h₃⟩ => ⟨h₁, h₂, h₃⟩, fun ⟨h₁, h₂, h₃⟩ => ⟨h₁, h₂, h₃⟩⟩

instance (w : Char) (x a : List Char) : Decidable (Fits w x a) :=
  decidable_of_iff (_ ∧ _ ∧ _ ∧ _ ∧ _) ⟨fun ⟨h₁, h₂, h₃, h₄, h₅⟩ => ⟨h₁, h₂, h₃, h₄, h₅⟩,
    fun ⟨h₁, h₂, h₃, h₄, h₅⟩ => ⟨h₁, h₂, h₃, h₄, h₅⟩⟩

section Read

variable {w : Char} {x a : List Char}

theorem all_isAllowed_fill (hx : ∀ c ∈ x, isAllowed c) (ha : a.all isAllowed) : (fill w x a).all isAllowed := by
  rw [List.all_eq_true] at ha ⊢
  intro c hc
  obtain ⟨d, hd, hmem⟩ := List.mem_flatMap.1 hc
  split at hmem
  · exact hx c hmem
  · exact List.mem_singleton.1 hmem ▸ ha d hd

/-- What fits a document may be written for its placeholder before it is read or after. -/
theorem read_fill (htemplate : Template w a) (hfits : Fits w x a) {d : Datum} (h : read (String.ofList a) = .ok d) :
    d.Ready w x ∧ read (String.ofList (fill w x a)) = .ok (d.fill w x) := by
  rw [read, String.toList_ofList] at h ⊢
  split at h
  · next hallowed =>
    obtain ⟨g, hg, hdatum⟩ := bind_eq_ok_iff.1 h
    obtain ⟨ps, hsteps, horderly⟩ := htemplate.orderly
    obtain ⟨htexts, hunnamed⟩ := htemplate.texts g hg
    have htokens := tokens_fill hfits.fillable hfits.marks htemplate.unnamed hsteps (hfits.admits ps hsteps) horderly
    have hgraph := ofTokens_fill hfits.keeps hg
    rw [if_pos (all_isAllowed_fill hfits.fillable.allowed hallowed), htokens]
    exact ⟨Graph.ready_datum hunnamed (hfits.keys g hg) hdatum,
      bind_eq_ok_iff.2 ⟨_, hgraph, Graph.datum_fill (hfits.keys g hg) htexts hdatum⟩⟩
  · cases h

end Read

end Workcell.Yaml
