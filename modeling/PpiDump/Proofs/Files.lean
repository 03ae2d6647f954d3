import PpiDump.Proofs.Effects
import PpiDump.World

namespace PpiDump

namespace History

variable {κ α : Type} [DecidableEq κ] {h : History κ α} {s : Standpoint} {c : Change κ α}
  {cs : List (Change κ α)} {revise : α → α} {key key' : κ} {value : α}

theorem find?_insert_self (revise : α → α) (c : Change κ α) (cs : List (Change κ α)) :
    (insert revise c cs).find? (fun d ↦ d.origin.time ≤ c.origin.time && d.key = c.key) =
      some c := by
  induction cs with
  | nil => simp [insert]
  | cons d ds ih =>
    unfold insert
    split
    · rename_i hlater
      have hlater : ¬d.origin.time ≤ c.origin.time := Nat.not_le.mpr hlater
      rw [List.find?_cons_of_neg, ih]
      split <;> simp [hlater]
    · split
      · split
        · simp
        · rename_i hkey
          rw [List.find?_cons_of_neg, ih]
          simp [Ne.symm hkey]
      · simp

theorem find?_insert_of_ne (revise : α → α) (cs : List (Change κ α)) (time : Nat)
    (hkey : key ≠ c.key) :
    (insert revise c cs).find? (fun d ↦ d.origin.time ≤ time && d.key = key) =
      cs.find? (fun d ↦ d.origin.time ≤ time && d.key = key) := by
  induction cs with
  | nil => simpa [insert] using fun _ ↦ Ne.symm hkey
  | cons d ds ih =>
    unfold insert
    split
    · split
      · rename_i hd
        rw [List.find?_cons_of_neg, List.find?_cons_of_neg, ih]
        · simp [hd, Ne.symm hkey]
        · simp [hd, Ne.symm hkey]
      · simp only [List.find?_cons, ih]
    · split
      · split
        · rename_i hd
          rw [List.find?_cons_of_neg, List.find?_cons_of_neg]
          · simp [← hd, Ne.symm hkey]
          · simp [Ne.symm hkey]
        · simp only [List.find?_cons, ih]
      · rw [List.find?_cons_of_neg]
        simp [Ne.symm hkey]

theorem count_set_of_ne {job : Nat} (hjob : job ≠ s.job) :
    (h.set s key value revise).count job = h.count job := by
  have hfind : (h.set s key value revise).counts.find? (·.1 = job) = h.counts.find? (·.1 = job) := by
    rw [set, List.find?_cons_of_neg (by simpa using Ne.symm hjob), List.find?_filter]
    congr 1
    funext e
    by_cases he : e.1 = job <;> simp [he, hjob]
  rw [count, count, hfind]

theorem latest?_set (h : History κ α) (s : Standpoint) (key key' : κ) (value : α) (revise : α → α) :
    (h.set s key value revise).latest? s key' =
      if key' = key then some value else h.latest? s key' := by
  have hexpected (d : Change κ α) : (h.set s key value revise).isExpected s d = h.isExpected s d := by
    by_cases hjob : d.origin.job = s.job
    · simp [isExpected, hjob]
    · simp only [isExpected, count_set_of_ne hjob]
  simp only [latest?, hexpected]
  let c : Change κ α := ⟨s, h.count s.job, key, value⟩
  obtain ⟨revise', hchanges⟩ :
      ∃ revise', (h.set s key value revise).changes = insert revise' c h.changes := ⟨_, rfl⟩
  have hforeseen : (h.set s key value revise).foreseen = h.foreseen := rfl
  rw [hchanges, hforeseen]
  by_cases hkey : key' = key
  · subst key'
    rw [if_pos rfl, find?_insert_self revise' c h.changes]
    split
    · rename_i d hknown hfind
      obtain rfl := Option.some.inj hknown
      have hd := List.find?_some hfind
      simp only [isExpected, Bool.and_eq_true, decide_eq_true_eq] at hd
      exact if_neg (Nat.not_le.mpr hd.2.1.1)
    · rename_i hknown _
      obtain rfl := Option.some.inj hknown
      rfl
    · rename_i hknown _
      cases hknown
    · rename_i hknown _
      cases hknown
  · rw [if_neg hkey, find?_insert_of_ne revise' h.changes s.time (c := c) hkey]

end History

namespace Files

variable {fs fs' : Files} {p : Path} {t : Text}

theorem entry?_change (fs : Files) (p q : Path) (e : Option Entry) :
    entry? (fs.change p e) q = if q = p then e else fs.entry? q := by
  have hlatest := fs.history.latest?_set fs.standpoint p q e (Entry.merge (fs.entry? p) e)
  have hbeforehand : (fs.change p e).beforehand? q = fs.beforehand? q := rfl
  have hhistory : (fs.change p e).history.latest? (fs.change p e).standpoint q =
      if q = p then some e else fs.history.latest? fs.standpoint q := hlatest
  rw [Files.entry?, hhistory, hbeforehand]
  by_cases hq : q = p
  · rw [if_pos hq, if_pos hq]
  · rw [if_neg hq, if_neg hq]
    rfl

theorem entry?_write (fs : Files) (p : Path) (content : Bytes) :
    ∃ executable, ∀ q, entry? (fs.write p content) q =
      if q = p then some (.file ⟨content, executable⟩) else fs.entry? q := by
  rw [write]
  split
  · rename_i f _
    exact ⟨f.executable, fun q ↦ entry?_change fs p q _⟩
  · exact ⟨false, fun q ↦ entry?_change fs p q _⟩

theorem follow_of_not_directory {here : Path} (h : fs.entry? here ≠ some .directory) (part : Text)
    (parts : List Text) : (fs.follow here (part :: parts)).toOption = none := by
  unfold follow
  split
  · exact absurd ‹_› h
  · rfl
  · rfl

theorem follow_congr (h : ∀ p, fs.isDirectory p = fs'.isDirectory p) (here : Path)
    (parts : List Text) :
    (fs.follow here parts).toOption = (fs'.follow here parts).toOption := by
  induction parts generalizing here with
  | nil => rfl
  | cons part parts ih =>
    have hhere := h here
    simp only [isDirectory, decide_eq_decide] at hhere
    by_cases hdir : fs.entry? here = some .directory
    · simp only [follow, hdir, hhere.mp hdir]
      split
      · exact ih _
      split
      · exact ih _
      split
      · exact ih _
      · rfl
    · rw [follow_of_not_directory hdir, follow_of_not_directory fun h ↦ hdir (hhere.mpr h)]

theorem locate_congr (h : ∀ p, fs.isDirectory p = fs'.isDirectory p) (here : Path) (t : Text) :
    (fs.locate here t).toOption = (fs'.locate here t).toOption := by
  rw [locate, locate]
  split
  · rfl
  split
  · rfl
  · exact follow_congr h _ _

/-- Whether there is nothing special to find: no device, and nothing that a program has open. -/
def isPlain (fs : Files) (p : Path) : Bool :=
  match fs.entry? p with
  | some (.device _) | some (.descriptor _) => false
  | _ => true

/-- Where a text leads from the directory in which programs start. -/
def place? (fs : Files) (t : Text) : Option Path := (fs.locate home t).toOption

theorem read?_eq (hplain : ∀ p ∈ fs.place? t, fs.isPlain p) :
    fs.read? t = (fs.place? t).bind fs.content? := by
  rw [read?, find]
  rcases hlocate : fs.locate home t with failure | p
  · simp [place?, hlocate, Except.toOption]
  · have hplace : fs.place? t = some p := by rw [place?, hlocate, Except.toOption]
    have hp := hplain p hplace
    rw [isPlain] at hp
    rw [hplace, Option.bind_some, content?]
    rcases hentry : fs.entry? p with _ | (f | _ | d | n)
    · simp only [hentry]
    · simp only [hentry]
    · simp only [hentry]
    · simp only [hentry] at hp
      cases hp
    · simp only [hentry] at hp
      cases hp

theorem place?_write (hdirectory : fs.entry? p ≠ some .directory) (content : Bytes) (t : Text) :
    (fs.write p content).place? t = fs.place? t := by
  obtain ⟨executable, hentry⟩ := fs.entry?_write p content
  refine locate_congr (fun q ↦ ?_) home t
  rw [isDirectory, isDirectory, hentry, decide_eq_decide]
  by_cases hq : q = p
  · subst q
    simp [hdirectory]
  · rw [if_neg hq]

theorem content?_write (fs : Files) (p q : Path) (content : Bytes) :
    (fs.write p content).content? q = if q = p then some content else fs.content? q := by
  obtain ⟨executable, hentry⟩ := fs.entry?_write p content
  rw [content?, hentry]
  by_cases hq : q = p
  · rw [if_pos hq, if_pos hq]
  · rw [if_neg hq, if_neg hq]
    rfl

theorem isPlain_write {q : Path} (h : fs.isPlain q) (p : Path) (content : Bytes) :
    (fs.write p content).isPlain q := by
  obtain ⟨executable, hentry⟩ := fs.entry?_write p content
  rw [isPlain, hentry]
  by_cases hq : q = p
  · rw [if_pos hq]
  · rw [if_neg hq]
    exact h

end Files

namespace World

/-- What the paths show of a world in which they lead to different plain files. -/
def view (paths : List Text) : View World where
  paths
  sound w := (∀ t ∈ paths, ∀ p ∈ w.files.place? t, w.files.isPlain p) ∧
    ∀ t ∈ paths, ∀ t' ∈ paths, t ≠ t' → ∀ p ∈ w.files.place? t, p ∉ w.files.place? t'
  content w t := w.files.read? t
  printed w := w.printed

variable {paths : List Text} {w : World} {path : Text}

theorem leaves_unwritten (hw : (view paths).sound w) (hpath : path ∈ paths) (content : Bytes) :
    (view paths).Leaves (.write path content false) w w where
  sound := hw
  places := Effect.places_write_subset hpath content false
  written := by
    intro path' content' hf
    have hf := List.mem_singleton.mp hf
    cases hf
  others := fun _ _ _ ↦ rfl
  printed := (List.append_nil _).symm

theorem sound_write (hw : (view paths).sound w) {p : Path}
    (hdirectory : w.files.entry? p ≠ some .directory) (content : Bytes) :
    (view paths).sound { w with files := w.files.write p content } := by
  have hplaces := Files.place?_write hdirectory content
  refine ⟨fun t ht q hq ↦ ?_, fun t ht t' ht' hne q hq hq' ↦ ?_⟩
  · rw [hplaces] at hq
    exact Files.isPlain_write (hw.1 t ht q hq) p content
  · rw [hplaces] at hq hq'
    exact hw.2 t ht t' ht' hne q hq hq'

theorem read?_write (hw : (view paths).sound w) (hpath : path ∈ paths) {p : Path}
    (hplace : w.files.place? path = some p) (hdirectory : w.files.entry? p ≠ some .directory)
    (content : Bytes) {t : Text} (ht : t ∈ paths) :
    (w.files.write p content).read? t = if t = path then some content else w.files.read? t := by
  have hsound := sound_write hw hdirectory content
  rw [Files.read?_eq (hsound.1 t ht), Files.read?_eq (hw.1 t ht),
    Files.place?_write hdirectory content]
  by_cases htp : t = path
  · rw [if_pos htp, htp, hplace, Option.bind_some, Files.content?_write, if_pos rfl]
  · rw [if_neg htp]
    rcases hq : w.files.place? t with _ | q
    · rfl
    · have hqp : q ≠ p := by
        rintro rfl
        exact hw.2 t ht path hpath htp q hq hplace
      rw [Option.bind_some, Option.bind_some, Files.content?_write, if_neg hqp]

theorem leaves_written (hw : (view paths).sound w) (hpath : path ∈ paths) {p : Path}
    (hplace : w.files.place? path = some p) (hdirectory : w.files.entry? p ≠ some .directory)
    (content : Bytes) :
    (view paths).Leaves (.write path content true) w
      { w with files := w.files.write p content } where
  sound := sound_write hw hdirectory content
  places := Effect.places_write_subset hpath content true
  written := by
    intro path' content' hf
    obtain ⟨rfl, heq⟩ := Prod.mk.inj (List.mem_singleton.mp hf)
    obtain rfl := Option.some.inj heq
    exact (read?_write hw hpath hplace hdirectory content' hpath).trans (if_pos rfl)
  others := by
    intro t ht hne
    rw [Effect.places_write, Option.toList_some, List.mem_singleton] at hne
    exact (read?_write hw hpath hplace hdirectory content ht).trans (if_neg hne)
  printed := (List.append_nil _).symm

theorem writeFile_leaves (hw : (view paths).sound w) (hpath : path ∈ paths) (content : Bytes) :
    (view paths).Leaves (.write path content (w.writeFile path content).1) w
      (w.writeFile path content).2 := by
  have hunwritten := leaves_unwritten hw hpath content
  rw [writeFile]
  rcases hlocate : w.files.locate Files.home path with failure | p
  · exact hunwritten
  · have hplace : w.files.place? path = some p := by
      rw [Files.place?, hlocate, Except.toOption]
    have htried (hdirectory : w.files.entry? p ≠ some .directory) :
        let tried := if w.files.isWritable p then (true, { w with files := w.files.write p content })
          else (false, w)
        (view paths).Leaves (.write path content tried.1) w tried.2 := by
      split
      · exact leaves_written hw hpath hplace hdirectory content
      · exact hunwritten
    have hplain := hw.1 path hpath p hplace
    rw [Files.isPlain] at hplain
    rcases hentry : w.files.entry? p with _ | (f | _ | d | n)
    · simp only [hentry]
      exact htried (by simp [hentry])
    · simp only [hentry]
      exact htried (by simp [hentry])
    · simp only [hentry]
      exact hunwritten
    · simp only [hentry] at hplain
      cases hplain
    · simp only [hentry] at hplain
      cases hplain

theorem host_honors (paths : List Text) : World.host.Honors (view paths) where
  readFile := fun hw hpath ↦ ⟨_, _, rfl, .inr rfl, View.leaves_nothing hw⟩
  writeFile := fun content hw hpath ↦ ⟨_, _, rfl, writeFile_leaves hw hpath content⟩
  print := by
    intro w t hw
    exact ⟨_, rfl, {
      sound := hw
      places := List.nil_subset _
      written := fun _ _ hf ↦ nomatch hf
      others := fun _ _ _ ↦ rfl
      printed := rfl }⟩
  log := fun t hw ↦ ⟨_, rfl, View.leaves_nothing hw⟩

end World

end PpiDump
