import Gadget.Proofs.Walking
import Gadget.Simulation.Kernel
/-!
# What mounting an instance does

Mounting asks a file system for one directory and the kernel for one mount at most. What it asks for is
settled by the root and the name before anything is asked: a path directly below the root
(`mountBelow_directly_below`). What becomes of it is settled by the two answers
(`mountBelow_outcome`); a directory that is there already and an instance that is mounted already are as good
as new ones, so mounting can be repeated.
-/
namespace Gadget.Device

/-! ## Asking the file system -/

section

variable {φ : Type} [FileSystem φ] {path : RawText} {mode : Nat} {files : φ}

theorem createDirectory_of_nul (h : RawText.nul ∈ path) :
    createDirectory path mode files = (.error .nulInPath, files) := by
  rw [createDirectory, if_pos (by simpa using h)]

theorem createDirectory_of_not_nul (h : RawText.nul ∉ path) :
    createDirectory path mode files =
      ((FileSystem.makeDirectory path mode files).1.mapError .os,
        (FileSystem.makeDirectory path mode files).2) := by
  rw [createDirectory, if_neg (by simpa using h)]
  cases FileSystem.makeDirectory path mode files with
  | mk made files => cases made <;> rfl

end

/-- A directory is there after it was to be made: it is new, or was there before. -/
def IsThere (made : Except SystemError Unit) : Prop := made = .ok () ∨ made = .error (.os .alreadyExists)

instance (made : Except SystemError Unit) : Decidable (IsThere made) :=
  match made with
  | .ok () => .isTrue (.inl rfl)
  | .error e => decidable_of_iff (e = .os .alreadyExists) (by simp [IsThere])

theorem isThere_or_error (made : Except SystemError Unit) :
    IsThere made ∨ ∃ e, made = .error e ∧ e ≠ .os .alreadyExists := by
  cases made with
  | ok u => exact .inl (.inl rfl)
  | error e =>
    by_cases he : e = .os .alreadyExists
    · exact .inl (.inr (he ▸ rfl))
    · exact .inr ⟨e, rfl, he⟩

/-- A directory can only be there if the file system was asked for it. -/
theorem IsThere.not_nul {φ : Type} [FileSystem φ] {path : RawText} {mode : Nat} {files : φ}
    (h : IsThere (createDirectory path mode files).1) : RawText.nul ∉ path := by
  intro hnul
  rw [createDirectory_of_nul hnul] at h
  rcases h with h | h <;> cases h

namespace FileTree

/-- A tree refuses with an error number whatever reaches it. -/
theorem placeOf_eq_error {path : RawText} {t : FileTree} {e : SystemError} (h : t.placeOf path = .error e)
    (hnul : RawText.nul ∉ path) : ∃ errno, e = .os errno := by
  rw [placeOf] at h
  split at h
  · rename_i hcheck
    rw [checkPath, if_neg (by simpa using hnul)] at hcheck
    split at hcheck
    · cases hcheck
      cases h
      exact ⟨_, rfl⟩
    split at hcheck <;> cases hcheck
    cases h
    exact ⟨_, rfl⟩
  dsimp only at h
  split at h
  · cases h
    exact ⟨_, rfl⟩
  split at h
  · split at h
    · cases h
      exact ⟨_, rfl⟩
    split at h
    · cases h
      exact ⟨_, rfl⟩
    split at h <;> cases h
    exact ⟨_, rfl⟩
  · cases h
    exact ⟨_, rfl⟩
  · cases h
    exact ⟨_, rfl⟩

/-- A tree makes directories as trees do. -/
theorem createDirectory_eq (path : RawText) (mode : Nat) (t : FileTree) :
    createDirectory path mode t = t.makeDirectory path mode := by
  by_cases hnul : RawText.nul ∈ path
  · have hcheck : checkPath path = .error .nulInPath := by rw [checkPath, if_pos (by simpa using hnul)]
    rw [createDirectory_of_nul hnul, makeDirectory, create, placeOf, hcheck]
  · rw [createDirectory_of_not_nul hnul]
    simp only [FileSystem.makeDirectory]
    rcases makeDirectory_cases path mode t with ⟨e, hp, he⟩ | ⟨_, _, _, _, _, -, he⟩ <;> rw [he]
    · obtain ⟨errno, rfl⟩ := placeOf_eq_error hp hnul
      rfl
    · rfl

end FileTree

/-! ## Asking the kernel -/

theorem nulTerminated_of_not_mem {text : RawText} (h : RawText.nul ∉ text) :
    nulTerminated text = .ok text := by
  rw [nulTerminated, if_neg (by simpa using h)]

/-- What a mount comes to that the kernel gave this answer to. -/
def mountResult (target : RawText) : Except Errno Unit → Except DeviceError RawText
  | .ok () => .ok target
  | .error errno => if errno = .busy then .ok target else .error (.system (.os errno))

theorem mountResult_eq_ok_iff {target path : RawText} {answer : Except Errno Unit} :
    mountResult target answer = .ok path ↔ path = target ∧ (answer = .ok () ∨ answer = .error .busy) := by
  cases answer with
  | ok u => simp [mountResult, eq_comm]
  | error errno =>
    by_cases hb : errno = .busy <;> simp [mountResult, hb, eq_comm]

section

variable {κ : Type} [Kernel κ] {name : String} {target : RawText}

/-- Without NUL bytes, attaching an instance is one mount call. -/
theorem attach_spec (hname : RawText.nul ∉ RawText.ofString name) (htarget : RawText.nul ∉ target)
    (m : Machine κ) :
    let answer := Kernel.mount (.ofString name) target fileSystemType 0 none m.kernel
    (attach name target m).1 = mountResult target answer.1 ∧
      (attach name target m).2.kernel = answer.2 ∧
      (attach name target m).2.calls =
        m.calls ++ [.mount (.ofString name) target fileSystemType 0 none answer.1] := by
  have htype : nulTerminated fileSystemType = .ok fileSystemType := nulTerminated_of_not_mem (by decide)
  simp only [attach, nulTerminated_of_not_mem hname, nulTerminated_of_not_mem htarget, htype, Machine.mount]
  cases Kernel.mount (.ofString name) target fileSystemType 0 none m.kernel with
  | mk answer k =>
    cases answer with
    | ok u => exact ⟨rfl, rfl, rfl⟩
    | error errno =>
      by_cases hb : errno = .busy
      · simp [hb, mountResult, Machine.log, Machine.called]
      · simp [hb, mountResult, Machine.called]

end

/-! ## Mounting -/

section

variable {φ κ : Type} [FileSystem φ] [Kernel κ] {root : RawText} {name : String} {files : φ} {m : Machine κ}

/-- An invalid name is the end of it. -/
theorem mountBelow_of_not_isValidName (h : ¬ isValidName name) (root : RawText) (files : φ) (m : Machine κ) :
    mountBelow root name files m = (.error (.invalidName name), files, m) := by
  rw [mountBelow, if_pos h]

/-- Without a directory nothing is mounted. -/
theorem mountBelow_of_error (h : isValidName name) {e : SystemError}
    (hmade : (createDirectory (Path.join root (.ofString name)) mountMode files).1 = .error e)
    (he : e ≠ .os .alreadyExists) :
    mountBelow root name files m =
      (.error (.system e), (createDirectory (Path.join root (.ofString name)) mountMode files).2, m) := by
  simp only [mountBelow, h, not_true_eq_false, if_false]
  generalize createDirectory (Path.join root (.ofString name)) mountMode files = made at hmade ⊢
  obtain ⟨made, files'⟩ := made
  cases hmade
  simp only [if_neg he]

/-- On a directory that is there the instance is attached. -/
theorem mountBelow_of_isThere (h : isValidName name)
    (hmade : IsThere (createDirectory (Path.join root (.ofString name)) mountMode files).1) :
    mountBelow root name files m =
      ((attach name (Path.join root (.ofString name)) m).1,
        (createDirectory (Path.join root (.ofString name)) mountMode files).2,
        (attach name (Path.join root (.ofString name)) m).2) := by
  simp only [mountBelow, h, not_true_eq_false, if_false]
  generalize createDirectory (Path.join root (.ofString name)) mountMode files = made at hmade ⊢
  obtain ⟨made, files'⟩ := made
  rcases hmade with hmade | hmade <;> cases hmade
  · rfl
  · simp only [if_true]

/-- What is asked of the file system, whatever comes of it. -/
theorem mountBelow_files (h : isValidName name) (root : RawText) (files : φ) (m : Machine κ) :
    (mountBelow root name files m).2.1 =
      (createDirectory (Path.join root (.ofString name)) mountMode files).2 := by
  rcases isThere_or_error (createDirectory (Path.join root (.ofString name)) mountMode files).1 with
    hmade | ⟨e, hmade, he⟩
  · rw [mountBelow_of_isThere h hmade]
  · rw [mountBelow_of_error h hmade he]

/-- What is asked of the kernel, and what comes of it. -/
theorem mountBelow_attached (h : isValidName name)
    (hmade : IsThere (createDirectory (Path.join root (.ofString name)) mountMode files).1) (m : Machine κ) :
    let target := Path.join root (.ofString name)
    let answer := Kernel.mount (.ofString name) target fileSystemType 0 none m.kernel
    (mountBelow root name files m).1 = mountResult target answer.1 ∧
      (mountBelow root name files m).2.2.kernel = answer.2 ∧
      (mountBelow root name files m).2.2.calls =
        m.calls ++ [.mount (.ofString name) target fileSystemType 0 none answer.1] := by
  rw [mountBelow_of_isThere h hmade]
  exact attach_spec (isSegment_of_isValidName h).nul hmade.not_nul m

/-- An instance is mounted exactly if its directory is there and the kernel mounts it, now or before. -/
theorem mountBelow_eq_ok_iff (h : isValidName name) {path : RawText} :
    let target := Path.join root (.ofString name)
    let answer := Kernel.mount (.ofString name) target fileSystemType 0 none m.kernel
    (mountBelow root name files m).1 = .ok path ↔ path = target ∧
      IsThere (createDirectory target mountMode files).1 ∧ (answer.1 = .ok () ∨ answer.1 = .error .busy) := by
  dsimp only
  rcases isThere_or_error (createDirectory (Path.join root (.ofString name)) mountMode files).1 with
    hmade | ⟨e, hmade, he⟩
  · rw [(mountBelow_attached h hmade m).1, mountResult_eq_ok_iff]
    simp only [hmade, true_and]
  · rw [mountBelow_of_error h hmade he, hmade]
    simp [IsThere, he]

/-- A valid name is never the reason. -/
theorem mountBelow_ne_invalidName (h : isValidName name) (root : RawText) (files : φ) (m : Machine κ)
    (invalid : String) : (mountBelow root name files m).1 ≠ .error (.invalidName invalid) := by
  rcases isThere_or_error (createDirectory (Path.join root (.ofString name)) mountMode files).1 with
    hmade | ⟨e, hmade, he⟩
  · rw [(mountBelow_attached h hmade m).1]
    generalize (Kernel.mount _ _ _ _ _ m.kernel).1 = answer
    cases answer with
    | ok u => simp [mountResult]
    | error errno => by_cases hb : errno = .busy <;> simp [mountResult, hb]
  · rw [mountBelow_of_error h hmade he]
    simp

end

/-! ## In a file tree -/

section

variable {root : RawText} {name : String} {t : FileTree}

/-- The permissions of a directory to mount on, in a file tree. -/
def FileTree.mountMode (t : FileTree) : Nat := Device.mountMode ^^^ (Device.mountMode &&& t.umask)

/-- The tree that is `t` with one more directory, which is empty: the entry of a name in the directory that
a root leads to. -/
inductive EntryBelow (root name : RawText) (t : FileTree) : FileTree → Prop
  | intro {directory parent mode : Nat} {entries : List (RawText × Nat)}
    (hroot : if root = [] then directory = t.working else t.lookUp root true = .ok directory)
    (hd : t.nodes[directory]? = some (.directory parent mode entries))
    (hvacant : entries.lookup name = none) :
    EntryBelow root name t (t.withEntry directory name (.directory directory t.mountMode []))

/-- A directory that is made for an instance is an entry of the root, and its path leads to it. -/
theorem entryBelow_of_ok (h : isValidName name)
    (hmade : (createDirectory (Path.join root (.ofString name)) mountMode t).1 = .ok ()) :
    EntryBelow root (.ofString name) t (createDirectory (Path.join root (.ofString name)) mountMode t).2 ∧
      ∃ parent,
        (createDirectory (Path.join root (.ofString name)) mountMode t).2.node?
          (Path.join root (.ofString name)) = .ok (.directory parent t.mountMode []) := by
  have hname := isSegment_of_isValidName h
  rw [FileTree.createDirectory_eq] at hmade ⊢
  rcases FileTree.makeDirectory_cases (Path.join root (.ofString name)) mountMode t with
    ⟨e, -, he⟩ | ⟨directory, last, parent, mode, entries, hp, he⟩
  · rw [he] at hmade
    cases hmade
  · rw [he]
    obtain rfl := hp.name_eq hname
    refine ⟨.intro (hp.lookUp_root hname) hp.directory hp.vacant, directory, ?_⟩
    have hnode := hp.getElem?_withEntry (.directory directory t.mountMode []) t.nodes.length
    rw [if_pos rfl] at hnode
    have hlink : ∀ target, Node.directory directory t.mountMode [] ≠ .link target := by simp
    have hlook := hp.lookUp_withEntry hlink (Path.getLast?_join hname root) true
    change FileTree.node? _ (t.withEntry directory (.ofString name) (.directory directory t.mountMode [])) = _
    rw [FileTree.node?, hlook]
    simp only [hnode]

end

/-! ## The path -/

section

variable {φ κ : Type} [FileSystem φ] [Kernel κ]

/-- **A mount stays directly below its root.** A name is invalid exactly if it is empty, a dot or two, or
holds a character that is not ASCII, a slash or a NUL; then neither the file system nor the kernel is asked
for anything. With any other name, the one path that the file system is asked for, that the kernel may be
asked to mount on and that may be returned has the components of the root and then the name. In a file tree
the directory that is made is an entry of the directory that the root leads to. -/
theorem mountBelow_directly_below (root : RawText) (name : String) (files : φ) (m : Machine κ) :
    let mounted := mountBelow root name files m
    let target := Path.join root (.ofString name)
    ((∃ invalid, mounted.1 = .error (.invalidName invalid)) ↔
      name = "" ∨ (∃ c ∈ name.toList, 128 ≤ c.toNat ∨ c = '/' ∨ c = '\x00') ∨ name = "." ∨ name = "..") ∧
    (∀ invalid, mounted.1 = .error (.invalidName invalid) → invalid = name ∧ mounted.2 = (files, m)) ∧
    ((∀ invalid, mounted.1 ≠ .error (.invalidName invalid)) →
      Path.components target = Path.components root ++ [.normal (.ofString name)] ∧
      mounted.2.1 = (createDirectory target mountMode files).2 ∧
      (mounted.2.2 = m ∨
        ∃ answer, mounted.2.2.calls =
          m.calls ++ [.mount (.ofString name) target (.ofString "functionfs") 0 none answer]) ∧
      (∀ path, mounted.1 = .ok path → path = target) ∧
      ∀ t : FileTree, (createDirectory target mountMode t).1 = .ok () →
        EntryBelow root (.ofString name) t (mountBelow root name t m).2.1) := by
  dsimp only
  by_cases h : isValidName name
  · refine ⟨⟨?_, fun hn => absurd h (not_isValidName_iff.2 hn)⟩, ?_, fun _ => ?_⟩
    · rintro ⟨invalid, he⟩
      exact absurd he (mountBelow_ne_invalidName h root files m invalid)
    · intro invalid he
      exact absurd he (mountBelow_ne_invalidName h root files m invalid)
    · refine ⟨Path.components_join (isSegment_of_isValidName h) root, mountBelow_files h root files m, ?_,
        fun path hok => ((mountBelow_eq_ok_iff h).1 hok).1, fun t hmade => ?_⟩
      · rcases isThere_or_error (createDirectory (Path.join root (.ofString name)) mountMode files).1 with
          hmade | ⟨e, hmade, he⟩
        · exact .inr ⟨_, (mountBelow_attached h hmade m).2.2⟩
        · exact .inl (by rw [mountBelow_of_error h hmade he])
      · rw [mountBelow_files h]
        exact (entryBelow_of_ok h hmade).1
  · rw [mountBelow_of_not_isValidName h]
    refine ⟨⟨fun _ => not_isValidName_iff.1 h, fun _ => ⟨name, rfl⟩⟩, ?_, fun hn => absurd rfl (hn name)⟩
    intro invalid he
    cases he
    exact ⟨rfl, rfl⟩

/-- An instance below a directory whose name is no text: one byte that begins no character. -/
theorem mounted_below_unreadable_root :
    let root : RawText := RawText.ofString "/dev/" ++ [0xff]
    let t : FileTree := ⟨[.directory 0 0o755 [(.ofString "dev", 1)], .directory 0 0o755 [([0xff], 2)],
      .directory 1 0o755 []], 0, 0o022⟩
    let mounted := mountBelow root "usb0" t (Machine.boot SimulatedKernel.fresh)
    mounted.1 = .ok (root ++ RawText.ofString "/usb0") ∧
      Path.components (root ++ RawText.ofString "/usb0") =
        [.root, .normal (.ofString "dev"), .normal [0xff], .normal (.ofString "usb0")] ∧
      mounted.2.2.calls =
        [.mount (.ofString "usb0") (root ++ RawText.ofString "/usb0") (.ofString "functionfs") 0 none
          (.ok ())] ∧
      EntryBelow root (.ofString "usb0") t mounted.2.1 := by
  intro root t mounted
  have hjoin : Path.join root (.ofString "usb0") = root ++ RawText.ofString "/usb0" := by decide
  have hmade : IsThere (createDirectory (Path.join root (.ofString "usb0")) mountMode t).1 := by
    decide +kernel
  have hok : mounted.1 = .ok (root ++ RawText.ofString "/usb0") := by decide +kernel
  obtain ⟨-, -, hbelow⟩ := mountBelow_directly_below root "usb0" t (Machine.boot SimulatedKernel.fresh)
  obtain ⟨hcomponents, -, -, -, hentry⟩ := hbelow fun invalid he => by
    rw [hok] at he
    cases he
  refine ⟨hok, ?_, ?_, hentry t (by decide +kernel)⟩
  · rw [← hjoin, hcomponents]
    decide
  · rw [← hjoin]
    exact (mountBelow_attached (by decide) hmade _).2.2

/-! ## The outcome -/

variable {root : RawText} {name : String}

/-- What the kernel answers to so many mounts of an instance. -/
def mountAnswers (name : String) (target : RawText) : Nat → κ → List (Except Errno Unit)
  | 0, _ => []
  | count + 1, kernel =>
    let (answer, kernel) := Kernel.mount (.ofString name) target fileSystemType 0 none kernel
    answer :: mountAnswers name target count kernel

omit [FileSystem φ] in
theorem length_mountAnswers (name : String) (target : RawText) (count : Nat) (kernel : κ) :
    (mountAnswers name target count kernel).length = count := by
  induction count generalizing kernel with
  | zero => rfl
  | succ count ih => simp only [mountAnswers, List.length_cons, ih]

/-- Mounts an instance so many times: the results, in order. -/
def mountTimes (root : RawText) (name : String) :
    Nat → φ → Machine κ → List (Except DeviceError RawText) × φ × Machine κ
  | 0, files, m => ([], files, m)
  | count + 1, files, m =>
    let (result, files, m) := mountBelow root name files m
    let (results, files, m) := mountTimes root name count files m
    (result :: results, files, m)

/-- Where the directory is found each time, mounting changes no file and returns what the kernel's answers
come to. -/
theorem mountTimes_spec (h : isValidName name) {files : φ}
    (hagain : createDirectory (Path.join root (.ofString name)) mountMode files =
      (.error (.os .alreadyExists), files))
    (count : Nat) (m : Machine κ) :
    let answers := mountAnswers name (Path.join root (.ofString name)) count m.kernel
    (mountTimes root name count files m).1 = answers.map (mountResult (Path.join root (.ofString name))) ∧
      (mountTimes root name count files m).2.1 = files ∧
      (mountTimes root name count files m).2.2.calls =
        m.calls ++ answers.map
          (.mount (.ofString name) (Path.join root (.ofString name)) fileSystemType 0 none) := by
  induction count generalizing m with
  | zero => exact ⟨rfl, rfl, by simp [mountTimes, mountAnswers]⟩
  | succ count ih =>
    have hmade : IsThere (createDirectory (Path.join root (.ofString name)) mountMode files).1 := by
      rw [hagain]
      exact .inr rfl
    obtain ⟨hresult, hkernel, hcalls⟩ := mountBelow_attached h hmade m
    have hfiles : (mountBelow root name files m).2.1 = files := by rw [mountBelow_files h, hagain]
    obtain ⟨hresults, hrest, hmore⟩ := ih (mountBelow root name files m).2.2
    rw [hkernel] at hresults hmore
    refine ⟨?_, ?_, ?_⟩
    · simp only [mountTimes, mountAnswers, hfiles, hresults, hresult, List.map_cons]
    · simp only [mountTimes, hfiles, hrest]
    · simp only [mountTimes, mountAnswers, hfiles, hmore, hcalls, List.map_cons, List.append_assoc,
        List.singleton_append]

/-- **What becomes of a mount**, whatever the file system and the kernel answer. The kernel is asked once if
the directory is there, new or old, and not at all if it is not. The path is returned exactly if the kernel
mounts the instance or has it mounted already; any other refusal, of the file system or of the kernel, comes
out as an error with its number, and a directory that was made stays. A NUL in the root ends it before
anything is asked. In a file tree, an instance that was mounted can be mounted any number of times: nothing
changes, and as long as the kernel agrees the path is the same. -/
theorem mountBelow_outcome (h : isValidName name) (root : RawText) (files : φ) (m : Machine κ) :
    let target := Path.join root (.ofString name)
    let made := createDirectory target mountMode files
    let answer := Kernel.mount (.ofString name) target (.ofString "functionfs") 0 none m.kernel
    let call : Call := .mount (.ofString name) target (.ofString "functionfs") 0 none answer.1
    let mounted := mountBelow root name files m
    -- the calls
    (mounted.2.1 = made.2 ∧
      (IsThere made.1 → mounted.2.2.calls = m.calls ++ [call] ∧ mounted.2.2.kernel = answer.2) ∧
      (¬ IsThere made.1 → mounted.2.2 = m) ∧
      (RawText.nul ∉ root → made = ((FileSystem.makeDirectory target 0o750 files).1.mapError .os,
        (FileSystem.makeDirectory target 0o750 files).2))) ∧
    -- the result
    (∀ path, mounted.1 = .ok path ↔
      path = target ∧ IsThere made.1 ∧ (answer.1 = .ok () ∨ answer.1 = .error .busy)) ∧
    (∀ errno, made.1 = .error (.os errno) → errno ≠ .alreadyExists →
      ∃ e, mounted.1 = .error (.system e) ∧ (DeviceError.system e).status = -errno.code) ∧
    (∀ errno, IsThere made.1 → answer.1 = .error errno → errno ≠ .busy →
      ∃ e, mounted.1 = .error (.system e) ∧ (DeviceError.system e).status = -errno.code) ∧
    -- text that holds a NUL, and text that does not
    (RawText.nul ∈ root → mounted.2 = (files, m) ∧
      ∃ e, mounted.1 = .error (.system e) ∧ (DeviceError.system e).status = -Errno.inputOutput.code) ∧
    (IsThere made.1 → nulTerminated (.ofString name) = .ok (.ofString name) ∧
      nulTerminated target = .ok target ∧ nulTerminated fileSystemType = .ok fileSystemType) ∧
    -- in a file tree
    ∀ t : FileTree,
      ((createDirectory target mountMode t).1 = .ok () → ∃ parent,
        (mountBelow root name t m).2.1.node? target = .ok (.directory parent t.mountMode [])) ∧
      ∀ path, (mountBelow root name t m).1 = .ok path → ∀ count (m' : Machine κ),
        let t' := (mountBelow root name t m).2.1
        let again := mountTimes root name count t' m'
        let answers := mountAnswers name target count m'.kernel
        again.2.1 = t' ∧
          again.2.2.calls = m'.calls ++
            answers.map (.mount (.ofString name) target (.ofString "functionfs") 0 none) ∧
          ((∀ a ∈ answers, a = .ok () ∨ a = .error .busy) → again.1 = List.replicate count (.ok path)) := by
  have hname := isSegment_of_isValidName h
  dsimp only
  refine ⟨⟨mountBelow_files h root files m, fun hmade => (mountBelow_attached h hmade m).2.symm, ?_, ?_⟩,
    fun path => mountBelow_eq_ok_iff h, ?_, ?_, ?_, ?_, fun t => ⟨?_, ?_⟩⟩
  · intro hmade
    obtain ⟨e, hmade, he⟩ := (isThere_or_error _).resolve_left hmade
    rw [mountBelow_of_error h hmade he]
  · exact fun hnul => createDirectory_of_not_nul (mt (Path.nul_mem_join_iff hname root).1 hnul)
  · intro errno hmade hne
    exact ⟨_, by rw [mountBelow_of_error h hmade (by simpa using hne)], rfl⟩
  · intro errno hmade hanswer hne
    change (Kernel.mount _ _ fileSystemType _ _ _).1 = _ at hanswer
    exact ⟨_, by rw [(mountBelow_attached h hmade m).1, hanswer, mountResult, if_neg hne], rfl⟩
  · intro hnul
    have hcreate : createDirectory (Path.join root (.ofString name)) mountMode files =
        (.error .nulInPath, files) := createDirectory_of_nul ((Path.nul_mem_join_iff hname root).2 hnul)
    rw [mountBelow_of_error h (by rw [hcreate]) (by simp [SystemError.nulInPath]), hcreate]
    exact ⟨rfl, _, rfl, rfl⟩
  · intro hmade
    exact ⟨nulTerminated_of_not_mem hname.nul, nulTerminated_of_not_mem hmade.not_nul,
      nulTerminated_of_not_mem (by decide)⟩
  · intro hmade
    rw [mountBelow_files h]
    exact (entryBelow_of_ok h hmade).2
  · intro path hok count m'
    obtain ⟨rfl, hmade, -⟩ := (mountBelow_eq_ok_iff h).1 hok
    rw [mountBelow_files h]
    have hagain : createDirectory (Path.join root (.ofString name)) mountMode
        (createDirectory (Path.join root (.ofString name)) mountMode t).2 =
          (.error (.os .alreadyExists),
            (createDirectory (Path.join root (.ofString name)) mountMode t).2) := by
      simp only [FileTree.createDirectory_eq] at hmade ⊢
      exact FileTree.makeDirectory_again hmade
    obtain ⟨hresults, hfiles, hcalls⟩ := mountTimes_spec h hagain count m'
    refine ⟨hfiles, hcalls, fun hagreed => ?_⟩
    rw [hresults, List.eq_replicate_iff]
    refine ⟨by rw [List.length_map, length_mountAnswers], ?_⟩
    intro result hm
    obtain ⟨a, ha, rfl⟩ := List.mem_map.1 hm
    exact mountResult_eq_ok_iff.2 ⟨rfl, hagreed a ha⟩

end

/-- The first mount makes the directory; of the next two, one finds the instance mounted. -/
theorem mounted_again : ∃ (t t' : FileTree) (parent : Nat) (m m' : Machine SimulatedKernel),
    let root : RawText := .ofString "/dev"
    let target : RawText := .ofString "/dev/usb0"
    let busy := { m' with kernel := { m'.kernel with failures := [(.mount, .busy)] } }
    mountBelow root "usb0" t m = (.ok target, t', m') ∧
      t'.node? target = .ok (.directory parent 0o750 []) ∧
      (mountTimes root "usb0" 2 t' busy).1 = [.ok target, .ok target] ∧
      (mountTimes root "usb0" 2 t' busy).2.1 = t' := by
  let t : FileTree := ⟨[.directory 0 0o755 [(.ofString "dev", 1)], .directory 0 0o755 []], 0, 0o022⟩
  let m : Machine SimulatedKernel := .boot .fresh
  let root : RawText := .ofString "/dev"
  let target : RawText := .ofString "/dev/usb0"
  have htarget : Path.join root (.ofString "usb0") = target := by decide
  have hmode : t.mountMode = 0o750 := by decide
  have hvalid : isValidName "usb0" := by decide
  obtain ⟨-, hok, -, -, -, -, htree⟩ := mountBelow_outcome hvalid root t m
  have hmounted : (mountBelow root "usb0" t m).1 = .ok target :=
    (hok target).2 ⟨htarget.symm, by decide +kernel, by decide +kernel⟩
  obtain ⟨hnode, hagain⟩ := htree t
  obtain ⟨parent, hnode⟩ := hnode (by decide +kernel)
  rw [htarget, hmode] at hnode
  replace hagain := hagain _ hmounted 2
  generalize hmount : mountBelow root "usb0" t m = mounted at hmounted hnode hagain
  obtain ⟨result, t', m'⟩ := mounted
  cases hmounted
  obtain ⟨hsame, -, hresults⟩ :=
    hagain { m' with kernel := { m'.kernel with failures := [(.mount, .busy)] } }
  refine ⟨t, t', parent, m, m', hmount, hnode, hresults ?_, hsame⟩
  show ∀ a ∈ ([.error .busy, .ok ()] : List (Except Errno Unit)), a = .ok () ∨ a = .error .busy
  simp

end Gadget.Device
