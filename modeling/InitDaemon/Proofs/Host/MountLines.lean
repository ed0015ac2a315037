import InitDaemon.Proofs.Host.MountTable
import InitDaemon.Simulation.Machine

/-!
# The mount table of the machine in memory

The machine in memory keeps the rules of a mount table, whichever of its calls are made to fail.
-/

namespace InitDaemon.Simulation.Machine

open Host Text

variable {m m' : Machine} {c : MountCall}

/-- The mount table is there, or it waits for the file system that holds it. -/
def IsTabled (m : Machine) : Prop :=
  (∃ text, m.mountTable = .ok text) ∨
    m.mountTable = .error (.errno .ENOENT) ∧ Terminated m.mountLines ∧
      m.devices["/proc"]? = none ∧ m.devices[""]? = none

theorem readText_mountTable (m : Machine) : Files.readText Host.mountTable m = m.mountTable := rfl

theorem device?_eq (path : String) (m : Machine) :
    Files.device? path m =
      if m.present path then some (m.deviceAt path.length path) else none := rfl

/-- Without a device of its own, the place of the mount table lies on the root's. -/
theorem isMountPoint_proc (htable : m.mountTable = .error (.errno .ENOENT))
    (hproc : m.devices["/proc"]? = none) (hempty : m.devices[""]? = none) :
    isMountPoint "/proc" m = false := by
  have hparent : Path.parent? "/proc" = some root := by decide
  have hown : m.deviceAt "/proc".length "/proc" = m.devices[root]?.getD 0 := by
    have hdirectory : directoryOf "/proc" = "" := by decide
    have hdirectory' : directoryOf "" = "" := by decide
    have hlength : "/proc".length = 5 := by decide
    simp only [hlength, deviceAt, hproc, hdirectory, hempty, hdirectory']
  have habove : m.deviceAt root.length root = m.devices[root]?.getD 0 := by
    have hlength : root.length = 1 := by decide
    rw [hlength, deviceAt]
    split
    next n heq =>
      rw [heq]
      rfl
    next => rfl
  have hroot : Files.device? root m = some (m.deviceAt root.length root) := by
    rw [device?_eq]
    exact if_pos rfl
  have hdevice {n : Nat} (h : Files.device? "/proc" m = some n) :
      n = m.deviceAt "/proc".length "/proc" := by
    rw [device?_eq] at h
    obtain ⟨-, heq⟩ := Option.ite_none_right_eq_some.mp h
    exact (Option.some.inj heq).symm
  rw [isMountPoint, readText_mountTable, htable, hparent]
  dsimp only
  split
  next own above hfound hfound' =>
    obtain rfl := hdevice hfound
    obtain rfl := Option.some.inj (hroot.symm.trans hfound')
    rw [hown, habove]
    exact bne_self_eq_false _
  next => rfl

theorem IsTabled.lacksTable (h : m.IsTabled) (htable : m.mountTable = .error (.errno .ENOENT)) :
    LacksTable m := by
  rcases h with ⟨text, htext⟩ | ⟨-, -, hproc, hempty⟩
  · cases htable.symm.trans htext
  · exact ⟨htable, isMountPoint_proc htable hproc hempty⟩

/-- A call that leaves table, lines and devices alone mounts nothing. -/
theorem IsTabled.keepsTable (h : m.IsTabled) (htable : m'.mountTable = m.mountTable)
    (hlines : m'.mountLines = m.mountLines) (hdevices : m'.devices = m.devices) :
    KeepsTable IsTabled m m' := by
  have h' : m'.IsTabled := by
    rw [IsTabled, htable, hlines, hdevices]
    exact h
  exact ⟨h', htable, fun hlacks => h'.lacksTable (htable.trans hlacks.1)⟩

theorem makeDirectory_keeps (path : String) (h : m.IsTabled) :
    KeepsTable IsTabled m (makeDirectory path m).2 := by
  rw [makeDirectory]
  split
  · exact h.keepsTable rfl rfl rfl
  · exact h.keepsTable rfl rfl rfl

theorem addFile_keeps (call : Call) (path : String) (r : Except Errno Unit) (h : m.IsTabled) :
    KeepsTable IsTabled m ((m.record call).addFile path r) := by
  cases r with
  | ok => exact h.keepsTable rfl rfl rfl
  | error => exact h.keepsTable rfl rfl rfl

/-! ## Mounts -/

theorem tableLine (hc : c.IsPlain) :
    ∃ line, TableLine c line ∧ mountLine c = line ++ "\n" := by
  refine ⟨_, ⟨c.fstype ++ " rw 0 0", ?_, rfl⟩, ?_⟩
  · have hfstype := not_mem_of_token hc.fstype
    simp [hfstype]
  · have hend : " rw 0 0\n" = " rw 0 0" ++ "\n" := by decide
    rw [mountLine, hend]
    simp only [String.append_assoc]

theorem mount_eq (c : MountCall) (m : Machine) :
    mount c m = match m.unlessFails (mountKeys c) (.ok ()) with
      | .ok () =>
        let seen := m.record (.mount c (.ok ()))
        (.ok (), if c.flags.remount then seen else seen.addMount c)
      | .error e => (.error e, m.record (.mount c (.error e))) := by
  rw [mount]
  cases m.unlessFails (mountKeys c) (.ok ()) with
  | ok => rfl
  | error => rfl

theorem mount_of_ok (h : (mount c m).1 = .ok ()) :
    (mount c m).2 = if c.flags.remount then m.record (.mount c (.ok ()))
      else (m.record (.mount c (.ok ()))).addMount c := by
  rw [mount_eq] at h ⊢
  split at h
  next => rfl
  next => cases h

theorem mountRules : MountRules IsTabled where
  makeDirectory path m h := makeDirectory_keeps path h
  makeNode node m h := addFile_keeps _ _ _ h
  makeLink target link m h := addFile_keeps _ _ _ h
  refused c m e h herror := by
    change (mount c m).1 = _ at herror
    change KeepsTable IsTabled m (mount c m).2
    rw [mount_eq] at herror ⊢
    split at herror
    next => cases herror
    next => exact h.keepsTable rfl rfl rfl
  mounted c m text h hc hfresh htext hok := by
    obtain ⟨line, hline, heq⟩ := tableLine hc
    change m.mountTable = .ok text at htext
    have htable : (mount c m).2.mountTable = .ok (text ++ (line ++ "\n")) := by
      rw [mount_of_ok hok, hfresh, ← heq]
      simp only [Bool.false_eq_true, if_false, addMount, record, htext]
    exact ⟨.inl ⟨_, htable⟩, line, hline, htable⟩
  remounted c m text h hc hremount htext hterminated hok := by
    change m.mountTable = .ok text at htext
    have htable : (mount c m).2.mountTable = .ok text := by
      rw [mount_of_ok hok, hremount]
      exact htext
    exact ⟨.inl ⟨_, htable⟩, text, hterminated, htable, fun p hp => hp⟩
  appears c m h hc hfresh htarget hlacks hok := by
    obtain ⟨line, hline, heq⟩ := tableLine hc
    have hmissing : m.mountTable = .error (.errno .ENOENT) := hlacks.1
    have hterminated : Terminated m.mountLines := by
      rcases h with ⟨text, htext⟩ | ⟨-, hterminated, -⟩
      · cases hmissing.symm.trans htext
      · exact hterminated
    have htable : (mount c m).2.mountTable = .ok (m.mountLines ++ (line ++ "\n")) := by
      rw [mount_of_ok hok, hfresh, ← heq]
      simp only [Bool.false_eq_true, if_false, addMount, record, hmissing, htarget,
        beq_self_eq_true, if_true]
    exact ⟨.inl ⟨_, htable⟩, m.mountLines, line, hterminated, hline, htable⟩

end InitDaemon.Simulation.Machine
