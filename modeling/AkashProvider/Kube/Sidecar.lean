import AkashProvider.Kube.Workload

/-!
# The attestation sidecar

A pod with a confidential runtime class gets one more container from an admission webhook, unless
the tenant has declined it or the pod has one.  `buildSidecarPatch` and `mutate` return the pod
with the patch applied.
-/

namespace AkashProvider.Kube

structure WebhookConfig where
  sidecarImage : String
  sidecarEnv : List EnvVar

def sidecarContainerName : String := "akash-attestation-sidecar"
def sidecarPort : Int := 8790
def tsmVolumeName : String := "tsm-reports"
def sevGuestVolumeName : String := "sev-guest"
def akashAttestationDisabledAnnotation : String := "akash.network/attestation-disabled"

def shouldInject (pod : PodTemplate) : Bool :=
  pod.labels.lookup akashManagedLabelName = some "true" ∧
    pod.runtimeClassName.any RuntimeClass.isWithCC ∧
    pod.annotations.lookup akashAttestationDisabledAnnotation ≠ some "true" ∧
    ∀ c ∈ pod.containers, c.name ≠ sidecarContainerName

def isMockMode (extraEnv : List EnvVar) : Bool :=
  extraEnv.any fun env => env.name = "ATTESTATION_MOCK" ∧ env.value = "true"

def sidecarResources (isGPU : Bool) : ResourceList × ResourceList :=
  let memRequest := if isGPU then sidecarGPUMemoryRequestBytes else sidecarMemoryRequestBytes
  let memLimit := if isGPU then sidecarGPUMemoryLimitBytes else sidecarMemoryLimitBytes
  ([(resourceCPU, sidecarCPURequestMillicores), (resourceMemory, 1000 * memRequest)],
    [(resourceCPU, sidecarCPULimitMillicores), (resourceMemory, 1000 * memLimit)])

def buildSidecarContainer (image : String) (isGPU : Bool) (extraEnv : List EnvVar) :
    Container where
  name := sidecarContainerName
  image := image
  command := ["/attestation-sidecar"]
  args := []
  requests := (sidecarResources isGPU).1
  limits := (sidecarResources isGPU).2
  volumeMounts :=
    if isMockMode extraEnv then
      ⟨tsmVolumeName, false, "/var/run/mock-tee/tsm-report"⟩ ::
        if isGPU then [] else [⟨sevGuestVolumeName, false, "/var/run/mock-tee/sev-guest"⟩]
    else []
  env := [⟨"ATTESTATION_LISTEN_ADDR", ":" ++ toString sidecarPort⟩] ++ extraEnv ++
    if isGPU then
      [⟨"NVIDIA_VISIBLE_DEVICES", "all"⟩, ⟨"NVIDIA_DRIVER_CAPABILITIES", "utility"⟩]
    else []
  ports := [sidecarPort]

/-- Only the mock has volumes, and they have neither a medium nor a size. -/
def buildSidecarVolumes (isGPU mockMode : Bool) : List Volume :=
  if mockMode then
    ⟨tsmVolumeName, some ⟨"", none⟩⟩ ::
      if isGPU then [] else [⟨sevGuestVolumeName, some ⟨"", none⟩⟩]
  else []

def buildSidecarPatch (pod : PodTemplate) (sidecarImage : String) (extraEnv : List EnvVar) :
    Except String PodTemplate :=
  if sidecarImage = "" then .error "attestation sidecar image not configured"
  else
    let isGPU := RuntimeClass.isWithGPU (pod.runtimeClassName.getD "")
    .ok { pod with
      containers := pod.containers ++ [buildSidecarContainer sidecarImage isGPU extraEnv]
      volumes := pod.volumes ++ buildSidecarVolumes isGPU (isMockMode extraEnv) }

/-- The pod that is admitted.  It is refused if the patch cannot be built. -/
def mutate (W : WebhookConfig) (pod : PodTemplate) : Except String PodTemplate :=
  if shouldInject pod then
    (buildSidecarPatch pod W.sidecarImage W.sidecarEnv).mapError
      ("failed to build attestation sidecar patch: " ++ ·)
  else .ok pod

theorem mutate_of_not_shouldInject {W : WebhookConfig} {pod : PodTemplate}
    (h : shouldInject pod = false) : mutate W pod = .ok pod := by
  simp [mutate, h]

/-- A pod that is admitted with a sidecar has one container more, and the same volumes but for
those of the mock. -/
theorem mutate_eq_ok {W : WebhookConfig} {pod pod' : PodTemplate} (hinj : shouldInject pod)
    (h : mutate W pod = .ok pod') :
    let isGPU := RuntimeClass.isWithGPU (pod.runtimeClassName.getD "")
    pod' = { pod with
      containers := pod.containers ++ [buildSidecarContainer W.sidecarImage isGPU W.sidecarEnv]
      volumes := pod.volumes ++ buildSidecarVolumes isGPU (isMockMode W.sidecarEnv) } := by
  rw [mutate, if_pos hinj, Except.mapError_eq_ok_iff, buildSidecarPatch] at h
  split at h
  next => cases h
  next => exact (Except.ok.inj h).symm

end AkashProvider.Kube
