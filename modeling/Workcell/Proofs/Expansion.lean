import Workcell.Proofs.Filling
import Workcell.Proofs.Settings

namespace Workcell

namespace Pairs

variable {m : Pairs} {key k : String}

def erase (m : Pairs) (key : String) : Pairs :=
  ⟨m.entries.filter (·.1 ≠ key), m.keys_nodup.sublist (List.filter_sublist.map _)⟩

theorem get?_erase_self : (m.erase key).get? key = none := by
  refine lookup_eq_none_of_not_mem fun hmem => ?_
  obtain ⟨p, hp, heq⟩ := List.mem_map.1 hmem
  exact of_decide_eq_true (List.mem_filter.1 hp).2 heq

theorem get?_erase_of_ne (h : k ≠ key) : (m.erase key).get? k = m.get? k := by
  refine Option.ext fun v => ?_
  rw [get?_eq_some_iff, get?_eq_some_iff, erase, List.mem_filter]
  simp [h]

end Pairs

namespace Text

variable {w : Char} {x r : List Char} {name : String}

def Braced (name : String) (cs : List Char) : Prop :=
  ∀ u ∈ cs.tails, u.head? = some '$' → ∀ q ∈ reference? u.tail, q.1 = name →
    u.tail.take q.2 = '{' :: name.toList ++ ['}']

instance (name : String) (cs : List Char) : Decidable (Braced name cs) :=
  inferInstanceAs (Decidable (∀ u ∈ cs.tails, u.head? = some '$' → ∀ q ∈ reference? u.tail, _ → _))

def replacement (value : String → Option String) (r : List Char) (name : String) (length : Nat) : List Char :=
  match value name with
  | some v => v.toList
  | none => '$' :: r.take length

theorem not_mem_unifyBreaks (hw : w ≠ '\n') {cs : List Char} (h : w ∉ cs) : w ∉ unifyBreaks cs := by
  induction cs using unifyBreaks.induct with
  | case1 r ih => simp_all [unifyBreaks]
  | case2 r _ ih => simp_all [unifyBreaks]
  | case3 c r _ _ ih => simp_all [unifyBreaks]
  | case4 => exact h

section Expand

variable {value value' : String → Option String}

theorem expandFrom_dollar (value : String → Option String) (r : List Char) :
    expandFrom value 0 ('$' :: r) = match reference? r with
      | some (name, length) => replacement value r name length ++ expandFrom value length r
      | none => '$' :: expandFrom value 0 r := by
  rw [expandFrom, if_pos rfl]
  cases reference? r with
  | none => rfl
  | some q =>
      dsimp only [replacement]
      cases value q.1 <;> rfl

theorem replacement_congr (h : value' name = value name) (r : List Char) (length : Nat) :
    replacement value' r name length = replacement value r name length := by
  rw [replacement, replacement, h]

theorem not_mem_replacement (hr : w ∉ '$' :: r) (hvalue : ∀ v ∈ value name, w ∉ v.toList) (length : Nat) :
    w ∉ replacement value r name length := by
  rw [replacement]
  split
  · next v hv => exact hvalue v hv
  · intro hmem
    exact hr (List.cons_subset_cons _ (List.take_subset _ _) hmem)

/-- Expansion with a value for a variable is expansion with a placeholder, filled with what stands for each of the
references to the variable. -/
theorem expandFrom_fill (hplaceholder : value name = some (String.singleton w))
    (hother : ∀ k ≠ name, value' k = value k) (hvalues : ∀ k ≠ name, ∀ v ∈ value k, w ∉ v.toList) {cs : List Char}
    (hfresh : w ∉ cs)
    (hx : ∀ r, '$' :: r ∈ cs.tails → ∀ length, reference? r = some (name, length) →
      replacement value' r name length = x)
    (skip : Nat) : expandFrom value' skip cs = Yaml.fill w x (expandFrom value skip cs) := by
  induction cs generalizing skip with
  | nil => cases skip <;> rfl
  | cons c r ih =>
      have hcw : c ≠ w := fun heq => hfresh (heq ▸ List.mem_cons_self)
      have htails (u : List Char) (hu : '$' :: u ∈ r.tails) : '$' :: u ∈ (c :: r).tails := by
        rw [List.tails_cons]
        exact List.mem_cons_of_mem _ hu
      have hrest := ih (fun hmem => hfresh (List.mem_cons_of_mem _ hmem)) fun u hu => hx u (htails u hu)
      cases skip with
      | succ skip => exact hrest skip
      | zero =>
          by_cases hc : c = '$'
          · subst hc
            rw [expandFrom_dollar, expandFrom_dollar]
            cases href : reference? r with
            | none => rw [hrest, Yaml.fill_cons x hcw]
            | some q =>
                obtain ⟨k, length⟩ := q
                dsimp only
                rw [hrest, Yaml.fill_append]
                by_cases hk : k = name
                · subst hk
                  rw [hx r (by simp) length href, replacement, hplaceholder]
                  simp [Yaml.fill]
                · have hmem := not_mem_replacement hfresh (hvalues k hk) length
                  rw [replacement_congr (hother k hk), Yaml.fill_of_not_mem x hmem]
          · rw [expandFrom, expandFrom, if_neg hc, if_neg hc, hrest, Yaml.fill_cons x hcw]

end Expand

end Text

def Machine.assign (m : Machine) (name value : String) : Machine :=
  { m with environ := m.environ.insert name value }

def Machine.unset (m : Machine) (name : String) : Machine := { m with environ := m.environ.erase name }

namespace Settings

section Expansion

variable {m : Machine} {name v : String} {w : Char} {cs : List Char}

def referenceTo (name : String) : List Char := '$' :: '{' :: name.toList ++ ['}']

/-- A character that neither the text of a file nor the value of another variable holds. -/
structure Fresh (m : Machine) (name : String) (cs : List Char) (w : Char) : Prop where
  text : w ∉ cs
  values : ∀ k ≠ name, ∀ v ∈ m.environ.get? k, w ∉ v.toList

def templateOf (m : Machine) (name : String) (w : Char) (cs : List Char) : List Char :=
  Text.expand (m.assign name (String.singleton w)).environ.get? (Text.unifyBreaks cs)

theorem yamlOf_fill {m' : Machine} (hfresh : Fresh m name cs w) (hw : w ≠ '\n')
    (hother : ∀ k ≠ name, m'.environ.get? k = m.environ.get? k) {x : List Char}
    (hx : ∀ r, '$' :: r ∈ (Text.unifyBreaks cs).tails → ∀ length, Text.reference? r = some (name, length) →
      Text.replacement m'.environ.get? r name length = x) :
    yamlOf m' cs = String.ofList (Yaml.fill w x (templateOf m name w cs)) := by
  have hassigned : ∀ k ≠ name, (m.assign name (String.singleton w)).environ.get? k = m.environ.get? k := by
    intro k hk
    exact (Pairs.get?_insert _ _ _ _).trans (if_neg hk)
  refine congrArg String.ofList (Text.expandFrom_fill ?_ (fun k hk => ?_) (fun k hk => ?_) ?_ hx 0)
  · exact (Pairs.get?_insert _ _ _ _).trans (if_pos rfl)
  · exact (hother k hk).trans (hassigned k hk).symm
  · rw [hassigned k hk]
    exact hfresh.values k hk
  · exact Text.not_mem_unifyBreaks hw hfresh.text

theorem yamlOf_set (hfresh : Fresh m name cs w) (hw : w ≠ '\n') (hset : m.environ.get? name = some v) :
    yamlOf m cs = String.ofList (Yaml.fill w v.toList (templateOf m name w cs)) :=
  yamlOf_fill hfresh hw (fun _ _ => rfl) fun r _ length _ => by rw [Text.replacement, hset]

theorem yamlOf_unset (hfresh : Fresh m name cs w) (hw : w ≠ '\n') (hbraced : Text.Braced name (Text.unifyBreaks cs)) :
    yamlOf (m.unset name) cs = String.ofList (Yaml.fill w (referenceTo name) (templateOf m name w cs)) := by
  refine yamlOf_fill hfresh hw (fun k hk => Pairs.get?_erase_of_ne hk) fun r hr length href => ?_
  have hunset : (m.unset name).environ.get? name = none := Pairs.get?_erase_self
  have htake : r.take length = '{' :: name.toList ++ ['}'] := hbraced _ hr rfl _ href rfl
  rw [Text.replacement, hunset]
  exact congrArg _ htake

end Expansion

end Settings

open Settings in
/-- A variable that fits the places of its references is part of the settings as it stands: where the reference to
it stands while it is unset. -/
theorem expansion_fills (m : Machine) {p : Path} (hp : p.hasNul = false) {cs : List Char}
    (hread : m.files.read m.base p = .ok (Utf8.encode cs)) {name v : String} (hset : m.environ.get? name = some v)
    (hbraced : Text.Braced name (Text.unifyBreaks cs)) {w : Char} (hfresh : Fresh m name cs w)
    (htemplate : Yaml.Template w (templateOf m name w cs))
    (hreference : Fits w (referenceTo name) (templateOf m name w cs))
    (hvalue : Fits w v.toList (templateOf m name w cs)) {s : Settings}
    (hs : ofFile (m.assign name (String.singleton w)) p = .ok s) :
    ofFile (m.unset name) p = .ok (s.fill w (referenceTo name)) ∧ ofFile m p = .ok (s.fill w v.toList) := by
  have hw : w ≠ '\n' := hvalue.fillable.ne '\n' (by decide)
  have htext : ofText (String.ofList (templateOf m name w cs)) = .ok s :=
    (ofFile_of_text (m := m.assign name (String.singleton w)) hp hread).symm.trans hs
  constructor
  · rw [ofFile_of_text (m := m.unset name) hp hread, yamlOf_unset hfresh hw hbraced]
    exact ofText_fill htemplate hreference htext
  · rw [ofFile_of_text hp hread, yamlOf_set hfresh hw hset]
    exact ofText_fill htemplate hvalue htext

def Machine.withImage (text : List Char) (image : String) : Machine :=
  (configured (Utf8.encode text)).assign "IMAGE" image

theorem fresh_withImage {text : List Char} {w : Char} (h : w ∉ text) (image : String) :
    Settings.Fresh (.withImage text image) "IMAGE" text w := by
  refine ⟨h, fun k hk v hv => ?_⟩
  rw [Machine.withImage, Machine.assign, Pairs.get?_insert, if_neg hk] at hv
  cases hv

def imageText : List Char :=
  "container_image: $\x7bIMAGE\x7d\nredactions:\n  \"$\x7bIMAGE\x7d\": '<$\x7bIMAGE\x7d>'\n".toList

def imageSettings (image : String) : Settings :=
  { Settings.default with
    containerImage := some image
    redactions := .ofList [(image, "<" ++ image ++ ">")] }

open Settings Machine in
set_option maxRecDepth 10000 in
theorem expansion_fills_image :
    ofFile ((withImage imageText "registry:5000/app#1").unset "IMAGE") settingsPath =
        .ok (imageSettings "$\x7bIMAGE\x7d") ∧
      ofFile (withImage imageText "registry:5000/app#1") settingsPath =
        .ok (imageSettings "registry:5000/app#1") := by
  let m := withImage imageText "registry:5000/app#1"
  have hread : m.files.read m.base settingsPath = .ok (Utf8.encode imageText) := read_configured _
  have hset : m.environ.get? "IMAGE" = some "registry:5000/app#1" := by decide +kernel
  have hfresh : Fresh m "IMAGE" imageText '\uE000' := fresh_withImage (by decide +kernel) _
  have hs : ofFile (m.assign "IMAGE" (String.singleton '\uE000')) settingsPath =
      .ok (imageSettings (String.singleton '\uE000')) :=
    Machine.ofFile_settings rfl rfl (by decide +kernel)
  have hfills := expansion_fills m hasNul_settingsPath hread hset (by decide +kernel) hfresh (by decide +kernel)
    (by decide +kernel) (by decide +kernel) hs
  have hreference : (imageSettings (String.singleton '\uE000')).fill '\uE000' (referenceTo "IMAGE") =
      imageSettings "$\x7bIMAGE\x7d" := by decide +kernel
  have hvalue : (imageSettings (String.singleton '\uE000')).fill '\uE000' "registry:5000/app#1".toList =
      imageSettings "registry:5000/app#1" := by decide +kernel
  rwa [hreference, hvalue] at hfills

open Settings Machine in
set_option maxRecDepth 10000 in
/-- A value with a line break adds a setting, and is no longer the image. -/
theorem expansion_restructures :
    ofFile ((withImage "container_image: $\x7bIMAGE\x7d\n".toList "a\nsandbox_allow_network: true").unset "IMAGE")
        settingsPath = .ok { Settings.default with containerImage := some "$\x7bIMAGE\x7d" } ∧
      ofFile (withImage "container_image: $\x7bIMAGE\x7d\n".toList "a\nsandbox_allow_network: true") settingsPath =
        .ok { Settings.default with containerImage := some "a", sandboxNetwork := true } := by
  constructor
  · exact Machine.ofFile_settings rfl rfl (by decide +kernel)
  · exact Machine.ofFile_settings rfl rfl (by decide +kernel)

end Workcell
