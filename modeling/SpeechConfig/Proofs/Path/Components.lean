/-
# `SpeechConfig.Proofs.Path.Components` — what joining and cutting do to the components

## What is proved, with every binder written out

For all paths, and every name of an entry, that is, not empty, not a dot part and without a slash:

    (dir.join name).components = dir.components ++ [.name name]
    p.parent? = some up → ∃ last, p.components = up.components ++ [last]

So whatever the spelling of a directory, an entry joined to it is a direct child: its parent names
what the directory names (`exists_parent?_join`), and its file name is the name
(`fileName?_join`).

Components do not tell a path, but where nothing stands before a name than a stem, they tell the
parent: it is the stem, however the path is spelt (`parent?_of_ofStem`).  For a parent ends with a
part that has a component, if there are parts in it at all (`SpeltAs.ends`).

## Why the stem is kept

A leading `.` counts only as a whole part, so the stem of a text could change with what stands
behind it.  It does not if that begins with a slash (`stem_append_slash`), and neither joining nor
cutting breaks a path anywhere else.
-/
import SpeechConfig.Proofs.FileSystem.Standing

namespace SpeechConfig.Path

open FileSystem (IsEntryName stem_cases)

variable {p dir up : Path} {name : String} {cs ds : List Char} {ps qs : List (List Char)}

/-! ## Parts -/

theorem splitFrom_eq_splitOn (cs : List Char) :
    ∀ part, splitFrom part cs = (cs.splitOn '/').modifyHead (part.reverse ++ ·) := by
  induction cs with
  | nil => intro part; simp [splitFrom]
  | cons c cs ih =>
      intro part
      obtain ⟨first, rest, split⟩ := List.exists_cons_of_ne_nil (List.splitOn_ne_nil '/' cs)
      rw [splitFrom, List.splitOn_cons_eq_if_modifyHead, ih, ih, split]
      by_cases slash : c = '/'
      · simp [slash]
      · simp [slash]

theorem parts_eq_splitOn (cs : List Char) : parts cs = cs.splitOn '/' := by
  obtain ⟨first, rest, split⟩ := List.exists_cons_of_ne_nil (List.splitOn_ne_nil '/' cs)
  rw [parts, splitFrom_eq_splitOn, split]
  rfl

theorem joinParts_parts (cs : List Char) : joinParts (parts cs) = cs := by
  rw [parts_eq_splitOn, joinParts, List.intercalate_splitOn]

theorem slash_not_mem_of_mem_splitFrom {part : List Char} :
    ∀ {cs before : List Char}, '/' ∉ before → part ∈ splitFrom before cs → '/' ∉ part := by
  intro cs
  induction cs with
  | nil =>
      intro before none h
      obtain rfl := List.mem_singleton.mp h
      simpa using none
  | cons c cs ih =>
      intro before none h
      rw [splitFrom] at h
      split at h
      · rcases List.mem_cons.mp h with rfl | h
        · simpa using none
        · exact ih List.not_mem_nil h
      · next other =>
          exact ih (List.not_mem_cons_of_ne_of_not_mem (Ne.symm other) none) h

theorem parts_joinParts (something : ps ≠ []) (h : ∀ part ∈ ps, part ∈ parts cs) :
    parts (joinParts ps) = ps := by
  rw [parts_eq_splitOn, joinParts]
  exact List.splitOn_intercalate '/'
    (fun part mem => slash_not_mem_of_mem_splitFrom List.not_mem_nil (h part mem)) something

theorem joinParts_append (something : ps ≠ []) (more : qs ≠ []) :
    joinParts (ps ++ qs) = joinParts ps ++ '/' :: joinParts qs := by
  induction ps with
  | nil => exact absurd rfl something
  | cons part rest ih =>
      cases rest with
      | nil => simp [joinParts, List.intercalate_cons_of_ne_nil more]
      | cons next rest =>
          have tail := ih (List.cons_ne_nil _ _)
          simp only [joinParts, List.cons_append, List.intercalate_cons_cons] at tail ⊢
          rw [tail]
          simp

/-! ## Stems -/

theorem stem_append (cs : List Char) : (stem cs).1 ++ (stem cs).2 = cs := by
  fun_cases stem cs <;> rfl

theorem stem_stem (cs : List Char) : stem (stem cs).1 = ((stem cs).1, []) := by
  fun_cases stem cs <;> rfl

theorem stem_of_plain (not_root : ∀ rest, cs ≠ '/' :: rest) (not_here : cs ≠ ['.'])
    (not_below : ∀ rest, cs ≠ '.' :: '/' :: rest) : stem cs = ([], cs) := by
  unfold stem
  split
  · next rest => exact absurd rfl (not_root rest)
  · exact absurd rfl not_here
  · next rest => exact absurd rfl (not_below rest)
  · rfl

theorem stem_append_slash (something : cs ≠ []) (ds : List Char) :
    stem (cs ++ '/' :: ds) = ((stem cs).1, (stem cs).2 ++ '/' :: ds) := by
  fun_cases stem cs with
  | case1 rest => rfl
  | case2 => rfl
  | case3 rest => rfl
  | case4 cs not_root not_here not_below =>
      obtain ⟨c, rest, rfl⟩ := List.exists_cons_of_ne_nil something
      refine stem_of_plain ?_ ?_ ?_
      · rintro more same
        exact not_root rest (by rw [(List.cons.inj same).1])
      · simp
      · rintro more same
        obtain ⟨rfl, behind⟩ := List.cons.inj same
        cases rest with
        | nil => exact not_here rfl
        | cons d rest => exact not_below rest (by rw [(List.cons.inj behind).1])

/-! ## Components -/

/-- The components of what stands behind the stem. -/
def named (body : List Char) : List Component :=
  ((parts body).filter fun part => !isIdle part).map ofPart

theorem components_of_stem (p : Path) {head body : List Char}
    (h : stem p.text.toList = (head, body)) :
    p.components = ofStem head ++ named body := by
  rw [components, h]
  rfl

theorem components_ofList {head body : List Char} (h : stem cs = (head, body)) :
    Path.components ⟨String.ofList cs⟩ = ofStem head ++ named body :=
  components_of_stem _ (String.toList_ofList.symm ▸ h)

theorem named_append_slash (cs ds : List Char) :
    named (cs ++ '/' :: ds) = named cs ++ named ds := by
  simp only [named, parts_append_slash, List.filter_append, List.map_append]

theorem named_nil : named [] = [] := by
  decide

theorem named_eq_nil {body : List Char} (idle : (parts body).reverse.dropWhile isIdle = []) :
    named body = [] := by
  simpa [named, List.dropWhile_eq_nil_iff] using idle

theorem named_name (h : IsEntryName name) : named name.toList = [.name name] := by
  have not_idle : isIdle name.toList = false := by
    simp only [isIdle, Bool.or_eq_false_iff, beq_eq_false_iff_ne, List.isEmpty_eq_false_iff]
    exact ⟨by simpa using h.not_empty, fun same => h.not_here (String.toList_injective same)⟩
  have not_up : name.toList ≠ ['.', '.'] := fun same => h.not_up (String.toList_injective same)
  simp [named, h.parts, not_idle, ofPart, not_up]

theorem stem_name (h : IsEntryName name) : stem name.toList = ([], name.toList) := by
  refine stem_of_plain (fun rest same => ?_) (fun same => ?_) (fun rest same => ?_)
  · exact h.head (by simp [same])
  · exact h.not_here (String.toList_injective same)
  · exact h.no_slash (by simp [same])

theorem components_of_slash (spelt : p.text.toList = cs ++ '/' :: ds) (something : cs ≠ []) :
    p.components = ofStem (stem cs).1 ++ named (stem cs).2 ++ named ds := by
  have split : stem p.text.toList = _ := spelt ▸ stem_append_slash something ds
  rw [components_of_stem p split, named_append_slash, List.append_assoc]

/-! ## Joining -/

theorem components_join (dir : Path) (h : IsEntryName name) :
    (dir.join name).components = dir.components ++ [.name name] := by
  unfold Path.join
  rw [if_neg h.head, ← named_name h]
  by_cases empty : dir.text = ""
  · have joined : (dir.text ++ name).toList = name.toList := by simp [empty]
    rw [if_pos (by simp [empty]), components_of_stem _ (joined ▸ stem_name h)]
    simp [components, empty, stem, ofStem, parts, splitFrom, isIdle]
  by_cases slash : dir.text.toList.getLast? = some '/'
  · obtain ⟨cs, spelt⟩ := List.getLast?_eq_some_iff.mp slash
    have joined : (dir.text ++ name).toList = cs ++ '/' :: name.toList := by simp [spelt]
    rw [if_pos (by simp [slash])]
    cases cs with
    | nil =>
        have root (ds : List Char) : stem ([] ++ '/' :: ds) = (['/'], ds) := rfl
        rw [components_of_stem _ (joined ▸ root name.toList),
          components_of_stem dir (spelt ▸ root []), named_nil, List.append_nil]
    | cons c cs =>
        rw [components_of_slash joined (List.cons_ne_nil c cs),
          components_of_slash spelt (List.cons_ne_nil c cs), named_nil, List.append_nil]
  · have joined : (dir.text ++ "/" ++ name).toList = dir.text.toList ++ '/' :: name.toList := by
      simp
    rw [if_neg (by simp [slash, empty]), components_of_slash joined (by simpa using empty)]
    rfl

theorem fileName?_join (dir : Path) (h : IsEntryName name) :
    (dir.join name).fileName? = some name := by
  rw [fileName?, components_join dir h, List.getLast?_concat]

theorem getLast?_of_fileName? (h : p.fileName? = some name) :
    p.components.getLast? = some (.name name) := by
  unfold fileName? at h
  split at h
  · next text found => rw [found, Option.some.inj h]
  · cases h

theorem name_not_mem_ofStem (head : List Char) : .name name ∉ ofStem head := by
  unfold ofStem
  split
  all_goals simp

theorem isEntryName_of_fileName? (h : p.fileName? = some name) : IsEntryName name := by
  rcases whole : stem p.text.toList with ⟨head, body⟩
  have among := List.mem_of_getLast? (getLast?_of_fileName? h)
  rw [components_of_stem p whole, List.mem_append] at among
  rcases among with in_stem | in_body
  · exact absurd in_stem (name_not_mem_ofStem head)
  · obtain ⟨part, mem, same⟩ := List.mem_map.mp in_body
    obtain ⟨mem, visible⟩ := List.mem_filter.mp mem
    unfold ofPart at same
    split at same
    · cases same
    · next not_up =>
        cases same
        simp only [isIdle, Bool.not_eq_true', Bool.or_eq_false_iff, List.isEmpty_eq_false_iff,
          beq_eq_false_iff_ne] at visible
        have chars (cs : List Char) : String.ofList part = String.ofList cs ↔ part = cs :=
          String.ofList_inj
        exact {
          not_empty := mt (chars []).mp visible.1
          not_here := mt (chars ['.']).mp visible.2
          not_up := mt (chars ['.', '.']).mp not_up
          no_slash := by
            rw [String.toList_ofList]
            exact slash_not_mem_of_mem_splitFrom List.not_mem_nil mem }

/-! ## Cutting -/

/-- The first parts of a text, behind its stem, keep that stem, if other parts follow. -/
theorem stem_front {head body : List Char} (whole : stem cs = (head, body))
    (split : parts body = ps ++ qs) (something : ps ≠ []) (more : qs ≠ []) :
    stem (head ++ joinParts ps) = (head, joinParts ps) := by
  have spelt : cs = head ++ joinParts ps ++ '/' :: joinParts qs := by
    rw [List.append_assoc, ← joinParts_append something more, ← split, joinParts_parts,
      ← stem_append cs, whole]
  by_cases nothing : head ++ joinParts ps = []
  · obtain ⟨rfl, none⟩ := List.append_eq_nil_iff.mp nothing
    rw [none]
    rfl
  · have front := stem_append_slash nothing (joinParts qs)
    rw [← spelt, whole] at front
    obtain ⟨head_eq, body_eq⟩ := Prod.mk.inj front
    have body_spelt : body = joinParts ps ++ '/' :: joinParts qs := by
      rw [← joinParts_append something more, ← split, joinParts_parts]
    rw [Prod.ext_iff]
    exact ⟨head_eq.symm, List.append_cancel_right (body_eq.symm.trans body_spelt)⟩

/-- The first parts of a text, behind its stem, have their own components and no others. -/
theorem components_front {head body : List Char} (whole : stem cs = (head, body))
    (split : parts body = ps ++ qs) (more : qs ≠ []) :
    Path.components ⟨String.ofList (head ++ joinParts ps)⟩ =
      ofStem head ++ (ps.filter fun part => !isIdle part).map ofPart := by
  cases ps with
  | nil =>
      have only : stem head = (head, []) := by
        have := stem_stem cs
        rwa [whole] at this
      rw [components_ofList (show stem _ = (head, []) by simpa [joinParts] using only), named_nil]
      rfl
  | cons first rest =>
      have among : ∀ x ∈ first :: rest, x ∈ parts body := by
        intro x mem
        rw [split]
        exact List.mem_append_left _ mem
      rw [components_ofList (stem_front whole split (List.cons_ne_nil first rest) more), named,
        parts_joinParts (List.cons_ne_nil first rest) among]

/-- The parts up to the last that is not idle, and what else there is. -/
theorem parts_of_last {body part : List Char} {before : List (List Char)}
    (found : (parts body).reverse.dropWhile isIdle = part :: before) :
    ∃ idle after, parts body = (before.dropWhile isIdle).reverse ++ (idle ++ part :: after) ∧
      (∀ x ∈ idle, isIdle x = true) ∧ isIdle part = false ∧ ∀ x ∈ after, isIdle x = true := by
  refine ⟨(before.takeWhile isIdle).reverse, ((parts body).reverse.takeWhile isIdle).reverse,
    ?_, ?_, ?_, ?_⟩
  · have whole := List.takeWhile_append_dropWhile (p := isIdle) (l := (parts body).reverse)
    rw [found, ← List.takeWhile_append_dropWhile (p := isIdle) (l := before)] at whole
    refine (List.reverse_reverse _).symm.trans ((congrArg List.reverse whole).symm.trans ?_)
    simp only [List.reverse_append, List.reverse_cons, List.append_assoc,
      List.cons_append, List.nil_append]
  · intro x h
    exact List.mem_takeWhile_imp (List.mem_reverse.mp h)
  · have := List.head?_dropWhile_not isIdle (parts body).reverse
    simpa [found] using this
  · intro x h
    exact List.mem_takeWhile_imp (List.mem_reverse.mp h)

/-- How a parent is spelt: a stem and some of the parts, the last of them with a component; and it
has all the components of the path but the last. -/
structure SpeltAs (up p : Path) (head : List Char) (kept : List (List Char)) : Prop where
  text : up = ⟨String.ofList (head ++ joinParts kept)⟩
  stem : head = [] ∨ head = ['.'] ∨ head = ['/']
  ends : ∀ part ∈ kept.getLast?, isIdle part = false
  components : up.components = ofStem head ++ (kept.filter fun part => !isIdle part).map ofPart
  last : ∃ last, p.components = up.components ++ [last]

theorem stem_fst_cases (cs : List Char) :
    (stem cs).1 = [] ∨ (stem cs).1 = ['.'] ∨ (stem cs).1 = ['/'] := by
  rcases stem_cases cs with ⟨rest, -, root⟩ | here | plain
  · exact .inr (.inr (by rw [root]))
  · exact .inr (.inl here)
  · exact .inl (by rw [plain])

theorem speltAs_of_parent? (h : p.parent? = some up) : ∃ head kept, SpeltAs up p head kept := by
  rcases whole : stem p.text.toList with ⟨head, body⟩
  have known := stem_fst_cases p.text.toList
  rw [whole] at known
  rw [parent?, whole] at h
  dsimp only at h
  split at h
  · next part before found =>
      obtain rfl := Option.some.inj h
      obtain ⟨idle, after, split, idle_idle, not_idle, after_idle⟩ := parts_of_last found
      have ends : ∀ part ∈ (before.dropWhile isIdle).reverse.getLast?, isIdle part = false := by
        intro part among
        rw [List.getLast?_reverse] at among
        have visible := List.head?_dropWhile_not isIdle before
        rw [Option.mem_def.mp among] at visible
        simpa using visible
      generalize (before.dropWhile isIdle).reverse = kept at split ends ⊢
      have named_body : named body = (kept.filter fun part => !isIdle part).map ofPart ++
          [ofPart part] := by
        have none : ∀ {ps : List (List Char)}, (∀ x ∈ ps, isIdle x = true) →
            ps.filter (fun part => !isIdle part) = [] := by
          intro ps all
          simpa using all
        rw [named, split]
        simp [none idle_idle, none after_idle, not_idle]
      have front := components_front whole split (List.append_ne_nil_of_right_ne_nil idle
        (List.cons_ne_nil part after))
      refine ⟨head, kept, rfl, known, ends, front, ofPart part, ?_⟩
      rw [components_of_stem p whole, named_body, ← List.append_assoc, front]
  · next nothing =>
      split at h
      · next here =>
          obtain rfl := Option.some.inj h
          refine ⟨[], [], rfl, .inl rfl, by simp, by decide, .here, ?_⟩
          rw [components_of_stem p whole, here, named_eq_nil nothing]
          decide
      · cases h

/-- The parent of a path has all its components but the last. -/
theorem components_of_parent? (h : p.parent? = some up) :
    ∃ last, p.components = up.components ++ [last] := by
  obtain ⟨head, kept, spelt⟩ := speltAs_of_parent? h
  exact spelt.last

theorem parent?_eq_ofStem {head : List Char} (known : head = [] ∨ head = ['.'] ∨ head = ['/'])
    (h : p.parent? = some up) (only : up.components = ofStem head) :
    up = ⟨String.ofList head⟩ := by
  obtain ⟨head', kept, spelt⟩ := speltAs_of_parent? h
  have parts_of (part : List Char) : ofPart part ≠ .here ∧ ofPart part ≠ .root := by
    unfold ofPart
    split
    · exact ⟨nofun, nofun⟩
    · exact ⟨nofun, nofun⟩
  -- the stem has the only component there is, so that no part with one is kept
  have whole := spelt.components.symm.trans only
  obtain ⟨rfl, none⟩ : head' = head ∧ (kept.filter fun part => !isIdle part) = [] := by
    generalize (kept.filter fun part => !isIdle part) = visible at whole
    rcases spelt.stem with rfl | rfl | rfl <;> rcases known with rfl | rfl | rfl <;>
      cases visible <;> simp [ofStem, parts_of] at whole ⊢
  have nothing : kept = [] := by
    cases last : kept.getLast? with
    | none => exact List.getLast?_eq_none_iff.mp last
    | some part =>
        have visible := spelt.ends part last
        have idle := List.filter_eq_nil_iff.mp none part (List.mem_of_getLast? last)
        simp [visible] at idle
  rw [spelt.text, nothing]
  simp [joinParts]

theorem exists_parent?_of_fileName? (h : p.fileName? = some name) :
    ∃ up, p.parent? = some up ∧ p.components = up.components ++ [.name name] := by
  have last := getLast?_of_fileName? h
  cases parent : p.parent? with
  | some up =>
      obtain ⟨other, whole⟩ := components_of_parent? parent
      rw [whole, List.getLast?_concat] at last
      exact ⟨up, rfl, Option.some.inj last ▸ whole⟩
  | none =>
      rcases whole : stem p.text.toList with ⟨head, body⟩
      rw [parent?, whole] at parent
      dsimp only at parent
      split at parent
      · cases parent
      · next nothing =>
          rw [components_of_stem p whole, named_eq_nil nothing, List.append_nil] at last
          exact absurd (List.mem_of_getLast? last) (name_not_mem_ofStem head)

/-- A name behind a stem has that stem for its parent, however the path is spelt. -/
theorem parent?_of_ofStem {head : List Char} (known : head = [] ∨ head = ['.'] ∨ head = ['/'])
    (h : p.components = ofStem head ++ [.name name]) : p.parent? = some ⟨String.ofList head⟩ := by
  have named : p.fileName? = some name := by
    rw [fileName?, h, List.getLast?_concat]
  obtain ⟨up, parent, whole⟩ := exists_parent?_of_fileName? named
  rw [h] at whole
  rw [parent, parent?_eq_ofStem known parent (List.append_inj_left' whole rfl).symm]

theorem components_here_append (h : p.components = [.name name]) :
    Path.components ⟨"./" ++ p.text⟩ = [.here, .name name] := by
  rcases whole : stem p.text.toList with ⟨head, body⟩
  have known := stem_fst_cases p.text.toList
  rw [whole] at known
  rw [components_of_stem p whole] at h
  obtain rfl : head = [] := by
    rcases known with rfl | rfl | rfl
    · rfl
    all_goals simp [ofStem] at h
  have plain : p.text.toList = body := by
    rw [← stem_append p.text.toList, whole, List.nil_append]
  have behind : stem ("./" ++ p.text).toList = (['.'], [] ++ '/' :: body) := by
    rw [← plain]
    simp [stem]
  rw [components_of_stem _ behind, named_append_slash, named_nil, List.nil_append]
  exact congrArg (List.cons Component.here) h

theorem exists_parent?_join (dir : Path) (h : IsEntryName name) :
    ∃ up, (dir.join name).parent? = some up ∧ up.components = dir.components := by
  obtain ⟨up, parent, whole⟩ := exists_parent?_of_fileName? (fileName?_join dir h)
  rw [components_join dir h] at whole
  exact ⟨up, parent, (List.append_inj_left' whole rfl).symm⟩

theorem components_withFileName_join (dir : Path) {other : String} (h : IsEntryName name)
    (h' : IsEntryName other) :
    ((dir.join name).withFileName other).components = (dir.join other).components := by
  obtain ⟨up, parent, same⟩ := exists_parent?_join dir h
  simp only [withFileName, fileName?_join dir h, parent]
  rw [components_join up h', components_join dir h', same]

/-- Slashes and dots in the spelling of the directory do not matter. -/
example : (Path.mk "./pack//.").join "custom.dict" ≠ ⟨"./pack/custom.dict"⟩ ∧
    ((Path.mk "./pack//.").join "custom.dict").components =
      [.here, .name "pack", .name "custom.dict"] := by
  decide

end SpeechConfig.Path
