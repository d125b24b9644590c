import ProxmoxIaas.Foundation.Text

/-!
# Workspaces of Terraform

Every VM has a workspace, whose name ends in the id of the VM. Before a VM is destroyed the
workspaces are listed, and the name is looked for anywhere in the output. The name of the workspace
of another VM contains it if the id of that VM starts with the same digits.

## Main results

- `treatedAsExisting_iff`: a workspace is treated as existing if and only if it is listed, as long
  as its name does not lie within a line for another one.
- `infix_vmWorkspace_iff`: which names of workspaces lie within each other.
- `not_treatedAsExisting_iff`: the workspace of VM 1 is treated as existing because of that of
  VM 12.
-/

namespace ProxmoxIaas.Terraform

/-- The name of a workspace. -/
def workspaceName (workspacePrefix : List Char) (identifier : ℕ) : List Char :=
  workspacePrefix ++ '_' :: Text.digits identifier

/-- The name of the workspace of a VM. -/
def vmWorkspace (vmId : ℕ) : List Char := workspaceName ['v', 'm'] vmId

/-- How a job that destroys ends. -/
inductive DestroyOutcome where
  /-- The workspace does not exist, and the job reports that everything is destroyed. -/
  | nothingToDestroy
  /-- A command failed. -/
  | raised
  /-- Terraform has destroyed what is in the workspace. -/
  | destroyed
  deriving DecidableEq, Repr

/-- The end of `destroy_terraform_job`, from the output of `terraform workspace list` on; the other
commands succeed or fail. -/
def destroyTerraformJob (stdout workspace : List Char) (select destroy : Bool) : DestroyOutcome :=
  if ¬ workspace <:+: stdout then .nothingToDestroy
  else if select && destroy then .destroyed else .raised

/-- The job goes on to select the workspace, whatever comes of it. -/
def TreatedAsExisting (stdout : List Char) (vmId : ℕ) : Prop :=
  ∀ select destroy, destroyTerraformJob stdout (vmWorkspace vmId) select destroy ≠ .nothingToDestroy

/-- A line of the listing without blanks and without the marker of the current workspace. -/
def listedName (line : List Char) : List Char :=
  match Text.strip line with
  | '*' :: rest => Text.strip rest
  | rest => rest

/-- A line of the listing is for the workspace of a VM. -/
def Listed (stdout : List Char) (vmId : ℕ) : Prop :=
  ∃ line ∈ Text.split '\n' stdout, listedName line = vmWorkspace vmId

/-- The name on a line lies within the line. -/
theorem listedName_infix (line : List Char) : listedName line <:+: line := by
  have hstrip := Text.strip_infix line
  unfold listedName
  split
  case h_1 rest heq =>
    rw [heq] at hstrip
    exact ((Text.strip_infix rest).trans (List.suffix_cons '*' rest).isInfix).trans hstrip
  case h_2 => exact hstrip

/-- A name has no line breaks. -/
theorem newline_notMem_vmWorkspace (vmId : ℕ) : '\n' ∉ vmWorkspace vmId := by
  have hdigits := Text.not_mem_digits (c := '\n') (by decide) vmId
  simp [vmWorkspace, workspaceName, hdigits]

/-- The job goes on if the name lies within a line. -/
theorem treatedAsExisting_iff_infix {stdout : List Char} {vmId : ℕ} :
    TreatedAsExisting stdout vmId ↔ ∃ line ∈ Text.split '\n' stdout, vmWorkspace vmId <:+: line := by
  rw [← Text.infix_iff_exists_split (newline_notMem_vmWorkspace vmId)]
  constructor
  · intro h
    by_contra hnot
    exact h true true (if_pos hnot)
  · intro h select destroy
    rw [destroyTerraformJob, if_neg (not_not.mpr h)]
    split
    · exact nofun
    · exact nofun

/-- The workspace of a VM is treated as existing if and only if it is listed, exactly where it is
listed or its name lies within no line. -/
theorem treatedAsExisting_iff (stdout : List Char) (vmId : ℕ) :
    (TreatedAsExisting stdout vmId ↔ Listed stdout vmId) ↔
      Listed stdout vmId ∨ ∀ line ∈ Text.split '\n' stdout, ¬ vmWorkspace vmId <:+: line := by
  have hlisted : Listed stdout vmId → TreatedAsExisting stdout vmId := by
    rintro ⟨line, hline, hname⟩
    exact treatedAsExisting_iff_infix.mpr ⟨line, hline, hname ▸ listedName_infix line⟩
  constructor
  · intro h
    by_cases hl : Listed stdout vmId
    · exact Or.inl hl
    · refine Or.inr fun line hline hinfix => hl (h.mp ?_)
      exact treatedAsExisting_iff_infix.mpr ⟨line, hline, hinfix⟩
  · rintro (hl | hnone)
    · exact iff_of_true (hlisted hl) hl
    · have hnot : ¬ TreatedAsExisting stdout vmId := fun h => by
        obtain ⟨line, hline, hinfix⟩ := treatedAsExisting_iff_infix.mp h
        exact hnone line hline hinfix
      exact iff_of_false hnot fun hl => hnot (hlisted hl)

/-- The name of the workspace of a VM lies within that of another one exactly if the digits of the
other id start with those of its id. -/
theorem infix_vmWorkspace_iff {vmId other : ℕ} :
    vmWorkspace vmId <:+: vmWorkspace other ↔ Text.digits vmId <+: Text.digits other := by
  have hletter := Text.not_mem_digits (c := 'v') (by decide) other
  constructor
  · rintro ⟨before, after, heq⟩
    cases before with
    | nil =>
      refine ⟨after, ?_⟩
      simpa [vmWorkspace, workspaceName] using heq
    | cons c before =>
      -- there is no second letter `v` in a name
      have hmem : 'v' ∈ 'm' :: '_' :: Text.digits other := by
        have htail := congrArg List.tail heq
        have hname : vmWorkspace other = 'v' :: 'm' :: '_' :: Text.digits other := rfl
        rw [hname, List.tail_cons, List.cons_append, List.cons_append, List.tail_cons] at htail
        rw [← htail]
        simp [vmWorkspace, workspaceName]
      simp [hletter] at hmem
  · rintro ⟨after, heq⟩
    refine ⟨[], after, ?_⟩
    simp [vmWorkspace, workspaceName, heq]

/-- The listing of the workspace of VM 12, and of no other VM. -/
theorem not_treatedAsExisting_iff :
    ¬ ∀ stdout vmId, TreatedAsExisting stdout vmId ↔ Listed stdout vmId := by
  intro h
  -- the lines `* default` and `  vm_12`
  let stdout := ['*', ' ', 'd', 'e', 'f', 'a', 'u', 'l', 't', '\n', ' ', ' ', 'v', 'm', '_', '1', '2',
    '\n', '\n']
  have hinfix : vmWorkspace 1 <:+: stdout := by decide
  have htreated : TreatedAsExisting stdout 1 :=
    treatedAsExisting_iff_infix.mpr
      ((Text.infix_iff_exists_split (newline_notMem_vmWorkspace 1)).mp hinfix)
  have hnot : ∀ line ∈ Text.split '\n' stdout, listedName line ≠ vmWorkspace 1 := by decide
  obtain ⟨line, hline, hname⟩ := (h _ 1).mp htreated
  exact hnot line hline hname

end ProxmoxIaas.Terraform
