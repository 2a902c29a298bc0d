/-
  The name at the end of a path.

  * `mem_splitOn_of_name?`: the name is a part of the path between slashes;
  * `extension?_eq_some_iff`: the extension is what stands behind the last dot of the name, and
    `extension?_iff_of_fileName?` says so of a name that is UTF-8;
  * `mem_text_iff`: an ASCII character is printed for its byte, so a name is printed on one line
    if its path is (`oneLine_shownName`).
-/
import Stencil.Path
import Stencil.Proofs.Text.Lines
import Stencil.Proofs.Text.Pieces
import Stencil.Proofs.Text.Utf8

namespace Stencil.Path

open Text (OneLine)
open Text.Utf8 (encode decodeLossy)

variable {p : Path} {n : Bytes}

/-- The name is a part of the path between slashes. -/
theorem mem_splitOn_of_name? (h : p.name? = some n) : n ∈ Text.splitOn slash p.bytes := by
  unfold name? at h
  split at h
  · next last hlast =>
    cases h
    have hmem := List.mem_of_getLast? hlast
    simp only [components, List.mem_append, List.mem_filterMap] at hmem
    rcases hmem with hmem | ⟨part, hpart, hcomponent⟩
    · split_ifs at hmem <;> simp at hmem
    · unfold component? at hcomponent
      split_ifs at hcomponent
      · cases hcomponent
      · cases hcomponent
        exact hpart
  · cases h

theorem slash_notMem_of_name? (h : p.name? = some n) : slash ∉ n :=
  Text.sep_notMem_of_mem_splitOn (mem_splitOn_of_name? h)

theorem subset_of_name? (h : p.name? = some n) : n ⊆ p.bytes :=
  Text.subset_of_mem_splitOn (mem_splitOn_of_name? h)

theorem fileName?_eq_some_iff {name : Text} :
    p.fileName? = some name ↔ p.name? = some (encode name) := by
  simp only [fileName?, Option.bind_eq_some_iff, Text.Utf8.decode?_eq_some_iff, exists_eq_right]

/-! ## Slashes and dots in a text -/

theorem slash_mem_encode_iff {t : Text} : slash ∈ encode t ↔ '/' ∈ t :=
  Text.Utf8.mem_encode_iff (c := '/') (by decide)

theorem dot_mem_encode_iff {t : Text} : dot ∈ encode t ↔ '.' ∈ t :=
  Text.Utf8.mem_encode_iff (c := '.') (by decide)

/-! ## Extensions -/

theorem cutName_of_notMem (h : dot ∉ n) : cutName n = (n, none) := by
  have hafter : n.reverse.takeWhile (· ≠ dot) = n.reverse := by
    refine List.takeWhile_eq_self_iff.2 fun c hc => ?_
    simpa using fun heq : c = dot => h (heq ▸ List.mem_reverse.1 hc)
  rw [cutName, hafter, if_pos (.inl List.length_reverse)]

theorem cutName_append {stem extension : Bytes} (h : dot ∉ extension) :
    cutName (stem ++ dot :: extension) =
      if stem = [] then (dot :: extension, none) else (stem, some extension) := by
  have hplain : ∀ c ∈ extension.reverse, decide (c ≠ dot) = true := by
    intro c hc
    simpa using fun heq : c = dot => h (heq ▸ List.mem_reverse.1 hc)
  have hreverse : (stem ++ dot :: extension).reverse = extension.reverse ++ dot :: stem.reverse := by
    simp
  have hafter : (stem ++ dot :: extension).reverse.takeWhile (· ≠ dot) = extension.reverse := by
    rw [hreverse, List.takeWhile_append_of_pos hplain]
    simp
  have hbefore : ((stem ++ dot :: extension).reverse.dropWhile (· ≠ dot)).drop 1 =
      stem.reverse := by
    rw [hreverse, List.dropWhile_append_of_pos hplain]
    simp
  rw [cutName, hafter, hbefore]
  by_cases hne : stem = []
  · subst hne
    rw [if_pos (.inr rfl), if_pos rfl]
    rfl
  · have hcut : ¬ (extension.reverse.length = (stem ++ dot :: extension).length ∨
        stem.reverse = []) := by
      simp only [List.length_reverse, List.length_append, List.length_cons, List.reverse_eq_nil_iff,
        hne, or_false]
      omega
    rw [if_neg hcut, if_neg hne, List.reverse_reverse, List.reverse_reverse]

theorem cutName_snd_eq_some_iff {extension : Bytes} : (cutName n).2 = some extension ↔
    ∃ stem, stem ≠ [] ∧ dot ∉ extension ∧ n = stem ++ dot :: extension := by
  constructor
  · intro hcut
    by_cases hdot : dot ∈ n
    · -- the last dot is the first one of the name read backwards
      obtain ⟨behind, before, hsplit, hlast⟩ :=
        List.eq_append_cons_of_mem (List.mem_reverse.2 hdot)
      have hn : n = before.reverse ++ dot :: behind.reverse := by
        rw [← List.reverse_reverse n, hsplit]
        simp
      have hfree : dot ∉ behind.reverse := by simpa using hlast
      rw [hn, cutName_append hfree] at hcut
      split at hcut
      · cases hcut
      · next hstem =>
        cases hcut
        exact ⟨before.reverse, hstem, hfree, hn⟩
    · rw [cutName_of_notMem hdot] at hcut
      cases hcut
  · rintro ⟨stem, hne, hfree, rfl⟩
    rw [cutName_append hfree, if_neg hne]

/-- **The extension of a path is what stands behind the last dot of its name**, which must not be
    the first byte of it. -/
theorem extension?_eq_some_iff {extension : Text} : p.extension? = some extension ↔
    ∃ stem, stem ≠ [] ∧ '.' ∉ extension ∧ p.name? = some (stem ++ dot :: encode extension) := by
  simp only [extension?, Option.bind_eq_some_iff, Text.Utf8.decode?_eq_some_iff, exists_eq_right,
    cutName_snd_eq_some_iff, dot_mem_encode_iff]
  constructor
  · rintro ⟨n, hname, stem, hne, hfree, rfl⟩
    exact ⟨stem, hne, hfree, hname⟩
  · rintro ⟨stem, hne, hfree, hname⟩
    exact ⟨_, hname, stem, hne, hfree, rfl⟩

theorem extension?_iff_of_fileName? {name extension : Text} (h : p.fileName? = some name) :
    p.extension? = some extension ↔
      ∃ stem, stem ≠ [] ∧ '.' ∉ extension ∧ name = stem ++ '.' :: extension := by
  rw [extension?_eq_some_iff, fileName?_eq_some_iff.1 h]
  constructor
  · rintro ⟨stem, hne, hfree, hbytes⟩
    obtain ⟨u, v, rfl, rfl, hv⟩ :=
      Text.Utf8.encode_eq_append_cons (c := '.') (by decide) (Option.some.inj hbytes)
    obtain rfl := Text.Utf8.encode_injective hv
    refine ⟨u, ?_, hfree, rfl⟩
    rintro rfl
    exact hne rfl
  · rintro ⟨stem, hne, hfree, rfl⟩
    refine ⟨encode stem, fun hnil => hne (Text.Utf8.encode_injective hnil), hfree, ?_⟩
    rw [Text.Utf8.encode_append]
    rfl

theorem slash_notMem_of_stem? {stem : Text} (h : p.stem? = some stem) : '/' ∉ stem := by
  obtain ⟨name, hname, rfl⟩ := Option.map_eq_some_iff.1 h
  intro hshown
  refine slash_notMem_of_name? hname ?_
  have hslash : slash ∈ (cutName name).1 := (Text.Utf8.mem_decodeLossy_iff (by decide)).1 hshown
  unfold cutName at hslash
  dsimp only at hslash
  split at hslash
  · exact hslash
  · exact List.mem_reverse.1 ((List.dropWhile_sublist _).subset
      ((List.drop_sublist 1 _).subset (List.mem_reverse.1 hslash)))

/-! ## Paths as they are printed -/

/-- An ASCII character is printed for its byte. -/
theorem mem_text_iff {c : Char} (hc : c.toNat < 0x80) : c ∈ p.text ↔ c.toNat.toUInt8 ∈ p.bytes :=
  Text.Utf8.mem_decodeLossy_iff hc

theorem mem_text_of_fileName? {c : Char} (hc : c.toNat < 0x80) {name : Text}
    (h : p.fileName? = some name) (hmem : c ∈ name) : c ∈ p.text :=
  (mem_text_iff hc).2 (subset_of_name? (fileName?_eq_some_iff.1 h)
    ((Text.Utf8.mem_encode_iff hc).2 hmem))

/-- A name is printed on one line if its path is. -/
theorem oneLine_shownName {name : Text} (h : p.shownName? = some name) (hp : OneLine p.text) :
    OneLine name := by
  obtain ⟨n, hn, rfl⟩ := Option.map_eq_some_iff.1 h
  have hprinted : ∀ {c : Char}, c.toNat < 0x80 → c ∈ decodeLossy n → c ∈ p.text := fun hc hmem =>
    (mem_text_iff hc).2 (subset_of_name? hn ((Text.Utf8.mem_decodeLossy_iff hc).1 hmem))
  exact ⟨fun hc => hp.1 (hprinted (by decide) hc), fun hc => hp.2 (hprinted (by decide) hc)⟩

end Stencil.Path
