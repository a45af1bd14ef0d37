import Daybook.Database.Query
import Daybook.Proofs.Disk.Files
import Daybook.Proofs.Text.Lines

namespace Daybook

namespace Path

theorem cut_eq (done : List String) (current rest : List Char) :
    cut done current rest =
      done.reverse ++ (List.splitOnPPrepend (· == '/') rest current).map String.ofList := by
  induction rest generalizing done current with
  | nil => simp [cut]
  | cons c rest ih =>
      rw [cut, List.splitOnPPrepend_cons_eq_if]
      by_cases hc : c = '/'
      · rw [if_pos hc, if_pos (beq_iff_eq.mpr hc), ih]
        simp
      · rw [if_neg hc, if_neg (by simpa using hc), ih]

theorem parts_eq (path : String) : parts path = (path.toList.splitOn '/').map String.ofList := by
  rw [parts, cut_eq]
  rfl

theorem not_slash_of_mem_parts {path name : String} (h : name ∈ parts path) :
    '/' ∉ name.toList := by
  rw [parts_eq] at h
  obtain ⟨piece, hpiece, rfl⟩ := List.mem_map.mp h
  rw [String.toList_ofList]
  exact not_mem_of_mem_splitOn hpiece

theorem mem_steps {path name : String} (h : name ∈ steps path) :
    '/' ∉ name.toList ∧ isIdle name = false := by
  obtain ⟨hparts, hidle⟩ := List.mem_filter.mp h
  exact ⟨not_slash_of_mem_parts hparts, by simpa using hidle⟩

theorem parts_of_toList {path : String} {names : List String} (hne : names ≠ [])
    (hpath : path.toList = ['/'].intercalate (names.map String.toList))
    (h : ∀ name ∈ names, '/' ∉ name.toList) : parts path = names := by
  have hpieces : ∀ piece ∈ names.map String.toList, '/' ∉ piece := by
    intro piece hpiece
    obtain ⟨name, hname, rfl⟩ := List.mem_map.mp hpiece
    exact h name hname
  rw [parts_eq, hpath, List.splitOn_intercalate '/' hpieces (by simpa using hne), List.map_map]
  exact List.map_id'' (fun name => String.ofList_toList) names

theorem filter_not_idle {names : List String} (h : ∀ name ∈ names, isIdle name = false) :
    names.filter (!isIdle ·) = names := by
  rw [List.filter_eq_self]
  intro name hname
  rw [h name hname]
  rfl

theorem filter_not_idle_of_blank {names : List String} (h : names.all (· == "") = true) :
    names.filter (!isIdle ·) = [] := by
  rw [List.filter_eq_nil_iff]
  intro name hname
  have hblank : name = "" := by simpa using List.all_eq_true.mp h name hname
  rw [hblank]
  decide

theorem steps_relative {names : List String} (hne : names ≠ [])
    (h : ∀ name ∈ names, '/' ∉ name.toList ∧ isIdle name = false) :
    isAbsolute (String.intercalate "/" names) = false ∧
      steps (String.intercalate "/" names) = names := by
  have htext : (String.intercalate "/" names).toList =
      ['/'].intercalate (names.map String.toList) := by
    simp
  constructor
  · obtain ⟨first, others, rfl⟩ := List.exists_cons_of_ne_nil hne
    obtain ⟨hslash, hidle⟩ := h first List.mem_cons_self
    rw [isAbsolute, htext]
    cases hchars : first.toList with
    | nil =>
        have hempty : first = "" := String.toList_inj.mp hchars
        rw [hempty] at hidle
        cases hidle
    | cons c chars =>
        have hc : c ≠ '/' := by
          rintro rfl
          rw [hchars] at hslash
          exact hslash List.mem_cons_self
        cases others <;> simp [hchars, List.intercalate, hc]
  · rw [steps, parts_of_toList hne htext fun name hname => (h name hname).1]
    exact filter_not_idle fun name hname => (h name hname).2

theorem steps_absolute {names : List String} (hne : names ≠ [])
    (h : ∀ name ∈ names, '/' ∉ name.toList ∧ isIdle name = false) :
    isAbsolute ("/" ++ String.intercalate "/" names) = true ∧
      steps ("/" ++ String.intercalate "/" names) = names := by
  have htext : ("/" ++ String.intercalate "/" names).toList =
      ['/'].intercalate (("" :: names).map String.toList) := by
    obtain ⟨first, others, rfl⟩ := List.exists_cons_of_ne_nil hne
    simp [List.intercalate]
  constructor
  · obtain ⟨first, others, rfl⟩ := List.exists_cons_of_ne_nil hne
    rw [isAbsolute, htext]
    simp [List.intercalate]
  · rw [steps, parts_of_toList (List.cons_ne_nil _ _) htext]
    · exact filter_not_idle fun name hname => (h name hname).2
    · rintro name (_ | ⟨_, hname⟩)
      · exact List.not_mem_nil
      · exact (h name hname).1

theorem steps_of_parent? {path parent : String} (h : parent? path = some parent) :
    isAbsolute parent = isAbsolute path ∧ ∃ last, steps path = steps parent ++ [last] := by
  unfold parent? at h
  split at h
  · cases h
  · rename_i step rest hsteps
    have hall : ∀ name ∈ (step :: rest).dropLast, '/' ∉ name.toList ∧ isIdle name = false := by
      intro name hname
      have hmem : name ∈ steps path := by
        rw [hsteps]
        exact List.dropLast_subset _ hname
      exact mem_steps hmem
    have hlast : ∃ last, step :: rest = (step :: rest).dropLast ++ [last] :=
      ⟨_, (List.dropLast_concat_getLast (List.cons_ne_nil _ _)).symm⟩
    generalize (step :: rest).dropLast = init at h hall hlast
    have hparent : isAbsolute parent = isAbsolute path ∧ steps parent = init := by
      cases h
      cases init with
      | nil => cases isAbsolute path <;> decide
      | cons first others =>
          cases isAbsolute path with
          | false =>
              rw [if_neg Bool.false_ne_true, String.empty_append]
              exact steps_relative (List.cons_ne_nil _ _) hall
          | true =>
              rw [if_pos rfl]
              exact steps_absolute (List.cons_ne_nil _ _) hall
    rw [hsteps, hparent.2]
    exact ⟨hparent.1, hlast⟩

def place (path : String) : Place :=
  (steps path).foldl (fun here step => if step = ".." then here.dropLast else here ++ [step])
    (Disk.startOf path)

end Path

namespace Disk

variable {disk disk' : Disk} {path : String}

/-- A place and all places on the way to it are directories. -/
def IsRooted (disk : Disk) (here : Place) : Prop :=
  ∀ before, before <+: here → disk.find? before = some .directory

theorem IsRooted.find? {here : Place} (h : disk.IsRooted here) :
    disk.find? here = some .directory :=
  h here (List.prefix_refl here)

theorem IsRooted.dropLast {here : Place} (h : disk.IsRooted here) : disk.IsRooted here.dropLast :=
  fun before hbefore => h before (hbefore.trans (List.dropLast_prefix here))

theorem IsRooted.concat {here : Place} (h : disk.IsRooted here) {name : String}
    (hname : disk.find? (here ++ [name]) = some .directory) : disk.IsRooted (here ++ [name]) := by
  intro before hbefore
  rcases List.prefix_concat_iff.mp hbefore with rfl | hbefore
  · exact hname
  · exact h before hbefore

theorem IsRooted.mono {here : Place} (h : disk.IsRooted here)
    (hkeeps : disk.KeepsDirectories disk') : disk'.IsRooted here :=
  fun before hbefore => hkeeps before (h before hbefore)

theorem isRooted_startOf (hwork : disk.find? workingDirectory = some .directory) (path : String) :
    disk.IsRooted (startOf path) := by
  have hroot : disk.IsRooted [] := by
    intro before hbefore
    rw [List.prefix_nil.mp hbefore]
    rfl
  unfold startOf
  split
  · exact hroot
  · exact hroot.concat hwork

theorem followWords_filter (disk : Disk) (here : Place) (names : List String) :
    disk.followWords here (names.filter (!Path.isIdle ·)) = disk.followWords here names := by
  induction names generalizing here with
  | nil => rfl
  | cons name rest ih =>
      cases hidle : Path.isIdle name with
      | true => rw [List.filter_cons_of_neg (by simp [hidle]), ih, followWords, if_pos hidle]
      | false =>
          rw [List.filter_cons_of_pos (by simp [hidle]), followWords, followWords]
          simp only [ih]

theorem eq_of_followWords {here place : Place} {names : List String}
    (h : disk.followWords here names = some place) :
    place = (names.filter (!Path.isIdle ·)).foldl
      (fun here step => if step = ".." then here.dropLast else here ++ [step]) here := by
  induction names generalizing here with
  | nil =>
      cases h
      rfl
  | cons name rest ih =>
      rw [followWords] at h
      split at h
      · rename_i hidle
        rw [List.filter_cons_of_neg (by simp [hidle])]
        exact ih h
      · rename_i hidle
        rw [List.filter_cons_of_pos (by simpa using hidle), List.foldl_cons]
        split at h
        · rw [if_pos ‹_›]
          exact ih h
        · rw [if_neg ‹_›]
          split at h
          · split at h
            · cases h
            · exact ih h
          · cases h
          · exact ih h

theorem followWords_of_follow {here : Place} {names : List String} {target : Target}
    (hroot : disk.IsRooted here) (h : disk.follow here names = .ok target)
    (hlong : target.isTooLong = false) (rest : List String) :
    disk.followWords here (names.filter (!Path.isIdle ·) ++ rest) =
        disk.followWords target.place rest ∧
      disk.IsRooted target.place.dropLast := by
  induction names generalizing here with
  | nil =>
      cases h
      exact ⟨rfl, hroot.dropLast⟩
  | cons name names ih =>
      rw [follow] at h
      split at h
      · rename_i hidle
        rw [List.filter_cons_of_neg (by simp [hidle])]
        exact ih hroot h
      · rename_i hidle
        rw [List.filter_cons_of_pos (by simpa using hidle), List.cons_append, followWords,
          if_neg hidle]
        split at h
        · rw [if_pos ‹_›]
          exact ih hroot.dropLast h
        · rw [if_neg ‹_›, hroot.find?]
          dsimp only at h ⊢
          split at h
          · rename_i hblank
            cases h
            rw [Target.isTooLong, List.getLast?_concat, Option.getD_some,
              decide_eq_false_iff_not] at hlong
            rw [if_neg hlong, Path.filter_not_idle_of_blank hblank]
            refine ⟨rfl, ?_⟩
            rw [List.dropLast_concat]
            exact hroot
          · split at h
            · cases h
            · rw [if_neg ‹_›]
              split at h
              · cases h
              · exact ih (hroot.concat ‹_›) h
              · cases h

theorem lookup_of_isThere (h : disk.isThere path = true) :
    ∃ target entry, disk.resolve path = .ok target ∧ disk.find? target.place = some entry := by
  unfold isThere lookup at h
  cases hresolve : disk.resolve path with
  | error fault =>
      rw [hresolve] at h
      cases h
  | ok target =>
      rw [hresolve] at h
      simp only [bind, Except.bind] at h
      cases hfind : disk.find? target.place with
      | none =>
          rw [hfind] at h
          cases h
      | some entry => exact ⟨target, entry, rfl, hfind⟩

theorem lookup_of_directory {target : Target} (hresolve : disk.resolve path = .ok target)
    (hfind : disk.find? target.place = some .directory) : disk.lookup path = .ok .directory := by
  simp [lookup, hresolve, hfind, bind, Except.bind, pure, Except.pure]

theorem follow_of_resolve {target : Target} (h : disk.resolve path = .ok target) :
    disk.follow (startOf path) (Path.parts path) = .ok target ∧ target.isTooLong = false := by
  obtain ⟨happroach, hlong⟩ := resolve_eq_ok_iff.mp h
  refine ⟨?_, hlong⟩
  unfold approach at happroach
  split at happroach
  · cases happroach
  · split at happroach
    · cases happroach
    · split at happroach
      · cases happroach
      · exact happroach

/-- A path leads to the place of the body of a database, and will do so as long as directories stay
where they are. -/
def Leads (disk : Disk) (path : String) (place : Place) : Prop :=
  ∀ disk', disk.KeepsDirectories disk' →
    disk'.ensureParent path = (.ok (), disk') ∧ disk'.bodyPlace? path = some place

theorem Leads.mono {place : Place} (h : disk.Leads path place)
    (hkeeps : disk.KeepsDirectories disk') : disk'.Leads path place :=
  fun disk'' hkeeps' => h disk'' (hkeeps.trans hkeeps')

/-- Nothing has to be made before a path is followed. -/
def HasParent (disk : Disk) (path : String) : Prop :=
  ∀ parent, Path.parent? path = some parent → parent = "" ∨ disk.isThere parent = true

theorem isThere_of_isDirectory (h : disk.isDirectory path = true) : disk.isThere path = true := by
  obtain ⟨target, hresolve, hfind⟩ := isDirectory_iff.mp h
  rw [isThere, lookup_of_directory hresolve hfind]
  rfl

theorem hasParent_of_ensureParent {after : Disk} (h : disk.ensureParent path = (.ok (), after)) :
    after.HasParent path := by
  intro parent hparent
  unfold ensureParent at h
  rw [hparent] at h
  dsimp only at h
  split at h
  · rename_i hthere
    cases h
    simpa using hthere
  · have hmade := (makeDirectoriesUpTo_spec disk _ parent).2 (congrArg Prod.fst h)
    rw [← makeDirectories, h] at hmade
    exact hmade.imp_right isThere_of_isDirectory

theorem bodyPlace?_eq_some_iff {place : Place} :
    disk.bodyPlace? path = some place ↔
      disk.followWords (startOf path) (Path.parts path) = some place ∧
        (decide (maxBodyPath < pathLength place) || place.isEmpty) = false ∧
        disk.find? place.dropLast = some .directory := by
  unfold bodyPlace?
  cases disk.followWords (startOf path) (Path.parts path) with
  | none => exact ⟨nofun, fun ⟨h, _⟩ => nomatch h⟩
  | some found =>
      dsimp only
      constructor
      · intro h
        split at h
        · cases h
        · split at h
          · cases h
            exact ⟨rfl, Bool.eq_false_iff.mpr ‹_›, ‹_›⟩
          · cases h
      · rintro ⟨⟨⟩, hlong, hdirectory⟩
        rw [hlong, if_neg Bool.false_ne_true, if_pos hdirectory]

theorem eq_place_of_bodyPlace? {place : Place} (h : disk.bodyPlace? path = some place) :
    place = Path.place path :=
  eq_of_followWords (bodyPlace?_eq_some_iff.mp h).1

theorem HasParent.exists_target {parent : String} (h : disk.HasParent path)
    (hparent : Path.parent? path = some parent) :
    ∃ target, target.isTooLong = false ∧ ∀ disk', disk.KeepsDirectories disk' →
      disk'.follow (startOf parent) (Path.parts parent) = .ok target ∧
        (parent = "" ∨ disk'.resolve parent = .ok target) := by
  rcases h parent hparent with rfl | hthere
  · exact ⟨⟨workingDirectory, false⟩, by decide, fun _ _ => ⟨rfl, Or.inl rfl⟩⟩
  · obtain ⟨target, entry, hresolve, -⟩ := lookup_of_isThere hthere
    refine ⟨target, (follow_of_resolve hresolve).2, ?_⟩
    intro disk' hkeeps
    have hresolve' := resolve_eq_of_keepsDirectories hkeeps hresolve
    exact ⟨(follow_of_resolve hresolve').1, Or.inr hresolve'⟩

theorem steps_eq_nil_of_parent? (h : Path.parent? path = none) : Path.steps path = [] := by
  unfold Path.parent? at h
  split at h
  · rename_i hnone
    exact hnone
  · cases h

theorem followWords_singleton {here : Place} {last : String} (hidle : Path.isIdle last = false)
    (hup : last ≠ "..") (hhere : disk.find? here = some .directory) :
    disk.followWords here [last] =
      if maxName < last.utf8ByteSize then none else some (here ++ [last]) := by
  rw [followWords, hidle, if_neg Bool.false_ne_true, if_neg hup, hhere]
  rfl

theorem find?_of_followWords_singleton {here place : Place} {last : String}
    (hidle : Path.isIdle last = false) (hup : last ≠ "..")
    (h : disk.followWords here [last] = some place)
    (hplace : disk.find? place.dropLast = some .directory) : disk.find? here = some .directory := by
  rw [followWords, hidle, if_neg Bool.false_ne_true, if_neg hup] at h
  split at h
  · rename_i hfind
    exact hfind
  · cases h
  · cases h
    rw [List.dropLast_concat] at hplace
    exact hplace

theorem ensureParent_of_resolve {parent : String} (hparent : Path.parent? path = some parent)
    {target : Target} (hresolve : parent = "" ∨ disk.resolve parent = .ok target)
    (hfind : disk.find? target.place = some .directory) :
    disk.ensureParent path = (.ok (), disk) := by
  unfold ensureParent
  rw [hparent]
  rcases hresolve with rfl | hresolve
  · rfl
  · have hthere : disk.isThere parent = true := by
      rw [isThere, lookup_of_directory hresolve hfind]
      rfl
    simp [hthere]

theorem leads_of_bodyPlace? {place : Place}
    (hwork : disk.find? workingDirectory = some .directory) (hparent : disk.HasParent path)
    (hbody : disk.bodyPlace? path = some place) (hplace : disk.find? place ≠ some .directory) :
    disk.Leads path place := by
  obtain ⟨hwords, hlength, hdirectory⟩ := bodyPlace?_eq_some_iff.mp hbody
  cases hsome : Path.parent? path with
  | none =>
      -- The path has no step and leads to where it begins, which is a directory.
      rw [← followWords_filter, ← Path.steps, steps_eq_nil_of_parent? hsome] at hwords
      cases hwords
      exact absurd (isRooted_startOf hwork path).find? hplace
  | some parent =>
      obtain ⟨habsolute, last, hsteps⟩ := Path.steps_of_parent? hsome
      obtain ⟨target, hlong, htarget⟩ := hparent.exists_target hsome
      have hbase : ∀ disk', disk.KeepsDirectories disk' →
          disk'.followWords (startOf path) (Path.parts path) =
              disk'.followWords target.place [last] ∧
            disk'.IsRooted target.place.dropLast := by
        intro disk' hkeeps
        have hroot := (isRooted_startOf hwork parent).mono hkeeps
        have hstart : startOf path = startOf parent := by
          unfold startOf
          rw [habsolute]
        rw [← followWords_filter, ← Path.steps, hsteps, hstart]
        exact followWords_of_follow hroot (htarget disk' hkeeps).1 hlong [last]
      obtain ⟨hsame, hroot⟩ := hbase disk (KeepsDirectories.refl disk)
      rw [hwords] at hsame
      have hidle : Path.isIdle last = false := by
        have hmem : last ∈ Path.steps path := by
          rw [hsteps]
          exact List.mem_append_right _ List.mem_cons_self
        exact (Path.mem_steps hmem).2
      have hup : last ≠ ".." := by
        rintro rfl
        cases hsame
        exact hplace hroot.find?
      have hthere := find?_of_followWords_singleton hidle hup hsame.symm hdirectory
      intro disk' hkeeps
      constructor
      · exact ensureParent_of_resolve hsome (htarget disk' hkeeps).2 (hkeeps _ hthere)
      · refine bodyPlace?_eq_some_iff.mpr ⟨?_, hlength, hkeeps _ hdirectory⟩
        rw [(hbase disk' hkeeps).1, followWords_singleton hidle hup (hkeeps _ hthere), hsame,
          followWords_singleton hidle hup hthere]

end Disk

end Daybook
