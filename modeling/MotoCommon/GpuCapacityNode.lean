/-
**The node of the GPU's capacity** (`GpuCapacityNode.h`, `GpuCapacityNode.cpp`).

The manager holds a `std::optional` of a pointer to the node.  That there is no node is written in two
ways: the optional is empty when no path is configured, and the pointer is null when the path is
configured and one of its two files cannot be opened.  The manager looks only at the optional before it
uses the pointer, so a device of the second kind is not safe.

Main definitions:

* `Adpf.GpuCapacityNode` — a node, whose descriptors are valid;
* `Adpf.init_gpu_capacity_node`, `Adpf.createGpuCapacityNode` — how it is constructed;
* `Adpf.Env.OnDevice` — the environment of a manager on a device.

Main results:

* `Adpf.init_gpu_capacity_node_ne_none` — the pointer is not null exactly if both files can be opened;
* `Adpf.gpu_node_never_null_iff` — **whole runs**: on which devices no operation uses a null pointer.
-/

import MotoCommon.HeuristicRecords
import MotoCommon.LockDiscipline

set_option autoImplicit false

namespace Adpf

open Conc World SessionTaskMap

/-! ### The node and its construction -/

/-- The access mode that a file is opened with, next to `O_CLOEXEC | O_NONBLOCK`. -/
inductive AccessMode where
  | O_RDONLY
  | O_RDWR
  deriving DecidableEq, Repr

/-- What `FdInterface::open` returns for a path: a descriptor, or a negative number. -/
structure FdInterface where
  openFile : String → AccessMode → ℤ

/-- `GpuCapacityNode`.  Its constructor ends the process if a descriptor is negative. -/
structure GpuCapacityNode where
  capacity_node_path_ : String
  capacity_headroom_fd_ : ℤ
  frequency_fd_ : ℤ
  capacity_headroom_fd_valid : 0 ≤ capacity_headroom_fd_
  frequency_fd_valid : 0 ≤ frequency_fd_

/-- The file that a capacity is written to. -/
def capacityHeadroomFile (gpu_node_dir : String) : String := gpu_node_dir ++ "/capacity_headroom"

/-- The file that the frequency is read from. -/
def gpuFreqFile (gpu_node_dir : String) : String := gpu_node_dir ++ "/cur_freq"

/-- `GpuCapacityNode::init_gpu_capacity_node`: the pointer it returns, and the descriptors it closes. -/
def init_gpu_capacity_node (fd_interface : FdInterface) (gpu_node_dir : String) :
    Option GpuCapacityNode × List ℤ :=
  let capacity_headroom_fd := fd_interface.openFile (capacityHeadroomFile gpu_node_dir) .O_RDWR
  if hcap : capacity_headroom_fd < 0 then (none, [])
  else
    let frequency_fd := fd_interface.openFile (gpuFreqFile gpu_node_dir) .O_RDONLY
    if hfreq : frequency_fd < 0 then (none, [capacity_headroom_fd])
    else
      (some
        { capacity_node_path_ := gpu_node_dir
          capacity_headroom_fd_ := capacity_headroom_fd
          frequency_fd_ := frequency_fd
          capacity_headroom_fd_valid := Int.not_lt.1 hcap
          frequency_fd_valid := Int.not_lt.1 hfreq }, [])

def createGpuCapacityNode (gpu_sysfs_config_path : Option String) (fd_interface : FdInterface) :
    Option (Option GpuCapacityNode) :=
  gpu_sysfs_config_path.map fun path => (init_gpu_capacity_node fd_interface path).1

/-- Both files of the node can be opened. -/
def FdInterface.Opens (fd_interface : FdInterface) (gpu_node_dir : String) : Prop :=
  0 ≤ fd_interface.openFile (capacityHeadroomFile gpu_node_dir) .O_RDWR ∧
    0 ≤ fd_interface.openFile (gpuFreqFile gpu_node_dir) .O_RDONLY

/-- The pointer is null exactly if one of the files cannot be opened. -/
theorem init_gpu_capacity_node_ne_none {fd : FdInterface} {dir : String} :
    (init_gpu_capacity_node fd dir).1 ≠ none ↔ fd.Opens dir := by
  unfold init_gpu_capacity_node FdInterface.Opens
  dsimp only
  split
  · next hcap => exact iff_of_false (fun h => h rfl) fun h => by omega
  · split
    · next hfreq => exact iff_of_false (fun h => h rfl) fun h => by omega
    · exact iff_of_true (Option.some_ne_none _) ⟨by omega, by omega⟩

/-! ### The manager on a device -/

/-- What the manager knows of the pointer. -/
def GpuNodePtr.ofNode : Option GpuCapacityNode → GpuNodePtr
  | none => .null
  | some _ => .node

/-- The manager was constructed on a device with this path and these files. -/
def Env.OnDevice (path : Option String) (fd : FdInterface) (env : Env) : Prop :=
  env.mGpuCapacityNode = (createGpuCapacityNode path fd).map GpuNodePtr.ofNode

/-- The manager has a null pointer exactly if a path is configured and cannot be opened. -/
theorem Env.OnDevice.null_iff {path : Option String} {fd : FdInterface} {env : Env}
    (h : env.OnDevice path fd) :
    env.mGpuCapacityNode = some .null ↔ ∃ dir ∈ path, ¬ fd.Opens dir := by
  rw [h, createGpuCapacityNode]
  cases path with
  | none => exact iff_of_false (fun h => nomatch h) fun ⟨_, hmem, _⟩ => nomatch hmem
  | some dir =>
      have hnode : (init_gpu_capacity_node fd dir).1 ≠ none ↔ fd.Opens dir :=
        init_gpu_capacity_node_ne_none
      simp only [Option.map_some, Option.mem_some_iff, exists_eq_left', Option.some.injEq, ← hnode,
        not_not]
      cases (init_gpu_capacity_node fd dir).1 with
      | none => exact iff_of_true rfl rfl
      | some node => exact iff_of_false (fun h => nomatch h) fun h => nomatch h

/-! ### No null pointer is used -/

variable {w w' : World}

theorem World.FaultsAtNode.no_fault (h : FaultsAtNode w w')
    (hnode : w.env.mGpuCapacityNode ≠ some .null) (hno : Fault.gpuCapacityNode ∉ w.faults) :
    Fault.gpuCapacityNode ∉ w'.faults := by
  rcases h with heq | ⟨hnull, -⟩
  · rwa [heq]
  · exact absurd hnull hnode

/-- Where the pointer to the node is not null, no action uses it as a null pointer. -/
theorem Action.no_gpu_fault {A : Special → Prop} (ha : Action A w w')
    (hnode : w.env.mGpuCapacityNode ≠ some .null) (hno : Fault.gpuCapacityNode ∉ w.faults) :
    Fault.gpuCapacityNode ∉ w'.faults := by
  rcases ha.objects with ho | ⟨s, -, rfl⟩ | ⟨k, -, hapart⟩
  · exact ho.faults.no_fault hnode hno
  · exact hno
  · cases hapart with
    | construct tgid uid tids d => exact hno
    | activate s b => exact hno
    | retarget s t => exact hno
    | close s => exact hno
    | taskProfile profile tid => exact hno
    | records s f _ _ =>
        unfold World.withRecords
        split
        · simpa using hno
        · exact hno
    | frequency => exact (faultsAtNode_readGpuFrequency w).no_fault hnode hno
    | hint hq => rwa [hq.faults]

theorem Op.no_gpu_fault (op : Op) (hnode : w.env.mGpuCapacityNode ≠ some .null)
    (hno : Fault.gpuCapacityNode ∉ w.faults) :
    (op.prog.post w).env = w.env ∧ Fault.gpuCapacityNode ∉ (op.prog.post w).faults := by
  have hkeeps := op.keeps (I := fun w' => w'.env = w.env ∧ Fault.gpuCapacityNode ∉ w'.faults) ?_ w
    ⟨rfl, hno⟩
  · exact hkeeps
  · rintro u u' hact ⟨henv, hu⟩
    exact ⟨hact.env.trans henv, hact.no_gpu_fault (by rwa [henv]) hu⟩

/-- A refresh of a session that is there uses the pointer, if GPU votes are configured. -/
theorem applyGpuVotesLocked_fault {s : ℤ} (hnull : w.env.mGpuCapacityNode = some .null)
    (hlive : w.mSessionTaskMap.findSession s ≠ none) (hon : w.adpfConfig.mGpuBoostOn ≠ none) (t : ℤ) :
    Fault.gpuCapacityNode ∈ (w.applyGpuVotesLocked s t).faults := by
  obtain ⟨p, hp⟩ := Option.ne_none_iff_exists'.1 hlive
  obtain ⟨b, hb⟩ := Option.ne_none_iff_exists'.1 hon
  simp only [applyGpuVotesLocked, hp, hnull, hb]
  exact List.mem_cons_self

/-- **On which devices the pointer to the node is never null when it is used.**  In every run of the
operations of the service, under every profile, no operation uses a null pointer exactly if no path is
configured or both of its files can be opened.  On every other device a null pointer is used by every
call of `gpuFrequency` and by every refresh of a session that is there, if GPU votes are configured. -/
theorem gpu_node_never_null_iff {path : Option String} {fd : FdInterface} {env : Env}
    (h : env.OnDevice path fd) :
    ((∀ c w, Runs (fun _ _ => True) (World.init env c) w → Fault.gpuCapacityNode ∉ w.faults) ↔
      ∀ dir ∈ path, fd.Opens dir) ∧
    ((∃ dir ∈ path, ¬ fd.Opens dir) → ∀ w : World, w.env = env →
      Fault.gpuCapacityNode ∈ w.readGpuFrequency.2.faults ∧
      ∀ s t, w.mSessionTaskMap.findSession s ≠ none → w.adpfConfig.mGpuBoostOn ≠ none →
        Fault.gpuCapacityNode ∈ (w.applyGpuVotesLocked s t).faults) := by
  have hread : env.mGpuCapacityNode = some .null → ∀ w : World, w.env = env →
      Fault.gpuCapacityNode ∈ w.readGpuFrequency.2.faults := by
    rintro hnull w rfl
    rw [readGpuFrequency, hnull]
    exact List.mem_cons_self
  refine ⟨⟨fun hsafe dir hdir => ?_, fun hopens c w hrun => ?_⟩, fun hbroken w hw => ?_⟩
  · by_contra hnot
    have hrun : Runs (fun _ _ => True) (World.init env makeMockConfig) _ :=
      Runs.init.next (.manager .gpuFrequency) trivial id
    exact hsafe _ _ hrun (hread (h.null_iff.2 ⟨dir, hdir, hnot⟩) _ rfl)
  · have hnode : env.mGpuCapacityNode ≠ some .null := by
      intro hnull
      obtain ⟨dir, hdir, hnot⟩ := h.null_iff.1 hnull
      exact hnot (hopens dir hdir)
    have hkept : w.env = env ∧ Fault.gpuCapacityNode ∉ w.faults := by
      induction hrun with
      | init => exact ⟨rfl, List.not_mem_nil⟩
      | step op _ _ _ ih =>
          obtain ⟨henv, hno⟩ := op.no_gpu_fault (by rwa [ih.1]) ih.2
          exact ⟨henv.trans ih.1, hno⟩
    exact hkept.2
  · have hnull := h.null_iff.2 hbroken
    exact ⟨hread hnull w hw, fun s t hlive hon => applyGpuVotesLocked_fault (by rwa [hw]) hlive hon t⟩

/-- A device on which the files under a directory are opened with given results. -/
def deviceFiles (capacity_headroom_fd frequency_fd : ℤ) : FdInterface where
  openFile := fun _ mode =>
    match mode with
    | .O_RDWR => capacity_headroom_fd
    | .O_RDONLY => frequency_fd

/-- The manager on such a device, with a path configured. -/
def deviceEnv (fd : FdInterface) : Env where
  mGpuCapacityNode := (createGpuCapacityNode (some "/sys/devices/platform/gpu") fd).map GpuNodePtr.ofNode

/-- On a device whose files can be opened no null pointer is used, whatever operations run. -/
theorem gpu_node_never_null_opened :
    (deviceEnv (deviceFiles 3 4)).OnDevice (some "/sys/devices/platform/gpu") (deviceFiles 3 4) ∧
      ∀ c w, Runs (fun _ _ => True) (World.init (deviceEnv (deviceFiles 3 4)) c) w →
        Fault.gpuCapacityNode ∉ w.faults := by
  have hdevice : (deviceEnv (deviceFiles 3 4)).OnDevice (some "/sys/devices/platform/gpu")
      (deviceFiles 3 4) := rfl
  have hopens : ∀ dir, (deviceFiles 3 4).Opens dir := fun _ =>
    ⟨show (0 : ℤ) ≤ 3 by decide, show (0 : ℤ) ≤ 4 by decide⟩
  exact ⟨hdevice, (gpu_node_never_null_iff hdevice).1.2 fun dir _ => hopens dir⟩

/-- The device without the file for the frequency. -/
def brokenEnv : Env := deviceEnv (deviceFiles 3 (-1))

/-- An app constructs a session on it, and pauses it. -/
@[irreducible] def pausedWithoutNode : World :=
  (Op.session 1 .pause).prog.post
    ((Op.create 100 10000 [7] 16000000).prog.post (World.init brokenEnv makeMockConfig))

/-- On a device without the file for the frequency a null pointer is used by the first call of
`gpuFrequency`, and when a session is constructed and paused. -/
theorem gpu_node_null_used :
    brokenEnv.OnDevice (some "/sys/devices/platform/gpu") (deviceFiles 3 (-1)) ∧
      Fault.gpuCapacityNode ∈
        ((Op.manager .gpuFrequency).prog.post (World.init brokenEnv makeMockConfig)).faults ∧
      Runs (fun _ _ => True) (World.init brokenEnv makeMockConfig) pausedWithoutNode ∧
      Fault.gpuCapacityNode ∈ pausedWithoutNode.faults := by
  refine ⟨rfl, by decide +kernel, ?_, by decide +kernel⟩
  have hcreate : Runs (fun _ _ => True) (World.init brokenEnv makeMockConfig) _ :=
    Runs.init.next (.create 100 10000 [7] 16000000) trivial id
  unfold pausedWithoutNode
  exact hcreate.next (.session 1 .pause) trivial id

end Adpf
