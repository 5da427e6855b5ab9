import NodeWorkflow.Catalog.NodeType

/-!
# The node types known from the start

The names of widgets, the required parameters and the titles of the usual node types, and the
guesses about types that nobody has described.
-/

namespace NodeWorkflow.Catalog

def samplerParams : List String :=
  ["seed", "steps", "cfg", "sampler_name", "scheduler", "denoise"]

/-- The widgets of the tiled upscaler, without the seed control. -/
def tiledUpscaleOrder : List String :=
  ["upscale_by", "seed", "steps", "cfg", "sampler_name", "scheduler", "denoise", "mode_type",
    "tile_width", "tile_height", "mask_blur", "tile_padding", "seam_fix_mode",
    "seam_fix_denoise", "seam_fix_width", "seam_fix_mask_blur", "seam_fix_padding",
    "force_uniform_tiles", "tiled_decode"]

variable {η : Type}

/-- The descriptions, without hooks. -/
def builtinTypes : List (NodeType η) :=
  [
    { classType := "KSampler"
      widgetOrder := ["seed", "control_after_generate", "steps", "cfg", "sampler_name", "scheduler",
        "denoise"]
      requiredParams := samplerParams
      title := some "KSampler" },
    { classType := "KSamplerAdvanced"
      widgetOrder := ["add_noise", "noise_seed", "steps", "cfg", "sampler_name", "scheduler",
        "start_at_step", "end_at_step", "return_with_leftover_noise"]
      title := some "KSampler (Advanced)" },
    { classType := "CLIPTextEncode"
      widgetOrder := ["text"]
      requiredParams := ["text"]
      title := some "CLIP Text Encode" },
    { classType := "CLIPTextEncodeSDXL"
      widgetOrder := ["text_g", "text_l"]
      title := some "CLIP Text Encode (SDXL)" },
    { classType := "SaveImage"
      widgetOrder := ["filename_prefix"]
      requiredParams := ["filename_prefix"]
      title := some "Save Image" },
    { classType := "PreviewImage", title := some "Preview Image" },
    { classType := "LoadImage", widgetOrder := ["image"], title := some "Load Image" },
    { classType := "EmptyLatentImage"
      widgetOrder := ["width", "height", "batch_size"]
      title := some "Empty Latent Image" },
    { classType := "EmptySD3LatentImage"
      widgetOrder := ["width", "height", "batch_size"]
      title := some "EmptySD3LatentImage" },
    { classType := "LatentUpscale"
      widgetOrder := ["upscale_method", "width", "height", "crop"]
      title := some "Upscale Latent" },
    { classType := "LatentUpscaleBy"
      widgetOrder := ["upscale_method", "scale_by"]
      title := some "Upscale Latent By" },
    { classType := "CheckpointLoaderSimple"
      widgetOrder := ["ckpt_name"]
      title := some "Load Checkpoint" },
    { classType := "CheckpointLoaderSimpleShared", widgetOrder := ["ckpt_name"] },
    { classType := "VAELoader"
      widgetOrder := ["vae_name"]
      requiredParams := ["vae_name"]
      title := some "Load VAE" },
    { classType := "VAELoaderShared"
      widgetOrder := ["vae_name"]
      title := some "Load VAE (Shared)" },
    { classType := "UNETLoader"
      widgetOrder := ["unet_name", "weight_dtype"]
      requiredParams := ["unet_name"]
      title := some "Load Diffusion Model" },
    { classType := "CLIPLoader", widgetOrder := ["clip_name"], title := some "Load CLIP" },
    { classType := "DualCLIPLoader"
      widgetOrder := ["clip_name1", "clip_name2", "type", "device"]
      requiredParams := ["clip_name1", "clip_name2", "type", "device"]
      title := some "DualCLIPLoader" },
    { classType := "UpscaleModelLoader"
      widgetOrder := ["model_name"]
      requiredParams := ["model_name"]
      title := some "Load Upscale Model" },
    { classType := "ControlNetLoader"
      widgetOrder := ["control_net_name"]
      title := some "Load ControlNet" },
    { classType := "LoraLoader"
      widgetOrder := ["lora_name", "strength_model", "strength_clip"]
      title := some "Load LoRA" },
    { classType := "LoraLoaderModelOnly"
      widgetOrder := ["lora_name", "strength_model"]
      requiredParams := ["lora_name", "strength_model"]
      title := some "Load LoRA (Model Only)" },
    { classType := "PowerLoraLoader"
      widgetOrder := ["lora_name", "strength_model", "strength_clip"]
      title := some "Power LoRA Loader" },
    { classType := "VAEDecode", title := some "VAE Decode" },
    { classType := "VAEEncode", title := some "VAE Encode" },
    { classType := "VAEEncodeForInpaint", widgetOrder := ["grow_mask_by"] },
    { classType := "ConditioningAverage"
      widgetOrder := ["conditioning_to_strength"]
      title := some "Conditioning (Average)" },
    { classType := "ConditioningCombine", title := some "Conditioning (Combine)" },
    { classType := "ConditioningConcat", title := some "Conditioning (Concat)" },
    { classType := "ConditioningSetArea"
      widgetOrder := ["width", "height", "x", "y", "strength"]
      title := some "Conditioning (Set Area)" },
    { classType := "ConditioningSetAreaPercentage"
      widgetOrder := ["width", "height", "x", "y", "strength"]
      title := some "Conditioning (Set Area %)" },
    { classType := "ConditioningSetTimesteps"
      widgetOrder := ["start_percent", "end_percent"]
      title := some "Conditioning (Set Timesteps)" },
    { classType := "ConditioningZeroOut", title := some "ConditioningZeroOut" },
    { classType := "FluxGuidance", widgetOrder := ["guidance"], title := some "FluxGuidance" },
    { classType := "FluxResolutionNode"
      widgetOrder := ["megapixel", "aspect_ratio", "divisible_by", "custom_ratio",
        "custom_aspect_ratio"]
      requiredParams := ["megapixel", "aspect_ratio", "divisible_by", "custom_ratio"]
      title := some "Flux Resolution Calc" },
    { classType := "UltimateSDUpscale"
      widgetOrder := tiledUpscaleOrder
      requiredParams := tiledUpscaleOrder
      title := some "Ultimate SD Upscale" },
    { classType := "ImageScale"
      widgetOrder := ["upscale_method", "width", "height", "crop"]
      title := some "Upscale Image" },
    { classType := "ImageScaleBy"
      widgetOrder := ["upscale_method", "scale_by"]
      title := some "Upscale Image By" },
    { classType := "ControlNetApply"
      widgetOrder := ["strength", "start_percent", "end_percent"]
      title := some "Apply ControlNet" },
    { classType := "ControlNetApplyAdvanced"
      widgetOrder := ["strength", "start_percent", "end_percent"]
      title := some "Apply ControlNet (Advanced)" },
    { classType := "SetLatentNoiseMask", title := some "Set Latent Noise Mask" },
    { classType := "MaskToImage", title := some "Mask to Image" },
    { classType := "ImageToMask", widgetOrder := ["channel"], title := some "Image to Mask" },
    { classType := "SolidMask"
      widgetOrder := ["value", "width", "height"]
      title := some "Solid Mask" },
    { classType := "ImageBlur", widgetOrder := ["blur_radius", "sigma"] },
    { classType := "ImageSharpen", widgetOrder := ["sharpen_radius", "sigma", "alpha"] },
    { classType := "ImageInvert" },
    { classType := "ImageBatch", title := some "Image Batch" },
    { classType := "RepeatImageBatch"
      widgetOrder := ["amount"]
      title := some "Repeat Image Batch" },
    { classType := "FloatConstant", widgetOrder := ["value"], title := some "Float Constant" },
    { classType := "IntConstant", widgetOrder := ["value"], title := some "Int Constant" },
    { classType := "StringConstant", widgetOrder := ["value"], title := some "String Constant" },
    { classType := "RandomNoise", widgetOrder := ["noise_seed"], title := some "Random Noise" },
    { classType := "BatchIndex", widgetOrder := ["batch_index"], title := some "Batch Index" },
    { classType := "SliceLatent", widgetOrder := ["start", "length"] },
    { classType := "LatentBatch", title := some "Latent Batch" },
    { classType := "LatentBatchSeedBehavior", widgetOrder := ["seed_behavior"] },
    { classType := "SDXLPromptStyler"
      widgetOrder := ["text_positive", "text_negative", "style"]
      title := some "SDXL Prompt Styler" },
    { classType := "SDXLRefinerUseBase"
      widgetOrder := ["model", "positive", "negative", "vae"]
      title := some "SDXL Refiner (Use Base)" },
    { classType := "FaceRestoreModelLoader"
      widgetOrder := ["model_name"]
      title := some "Load Face Restore Model" },
    { classType := "FaceRestore"
      widgetOrder := ["facerestore_model", "codeformer_fidelity"]
      title := some "Face Restore" },
    { classType := "RegionalPrompting", widgetOrder := ["mask", "prompt", "neg_prompt"] },
    { classType := "WAS_Number_To_Float", widgetOrder := ["number"] },
    { classType := "WAS_Number_To_Int", widgetOrder := ["number"] },
    { classType := "WAS_Text_Concatenate", widgetOrder := ["text_a", "text_b", "delimiter"] },
    { classType := "AnimateDiffLoader", widgetOrder := ["model_name"] },
    { classType := "AnimateDiffSampler"
      widgetOrder := ["steps", "cfg", "sampler_name", "scheduler", "beta_schedule"] }]

def builtin : Catalog η :=
  builtinTypes.foldl Catalog.add []

/-- The node types known from the start, four of them with hooks. -/
def standard : Catalog :=
  [("KSampler", Hook.sampler), ("FluxResolutionNode", Hook.resolution),
    ("UltimateSDUpscale", Hook.tiledUpscale), ("DualCLIPLoader", Hook.dualLoader)].foldl
    (fun catalog (type, hook) => catalog.attach type hook) builtin

/-- Parts of type names and the widgets they suggest. A part stands after the more special ones that
hold it. -/
def suggestions : List (String × List String) :=
  [
    ("CheckpointLoader", ["ckpt_name"]),
    ("ModelLoader", ["model_name", "device"]),
    ("Loader", ["model_name", "device"]),
    ("KSampler", samplerParams),
    ("Sampler", samplerParams),
    ("TextEncode", ["text"]),
    ("TextInput", ["text"]),
    ("ImageSave", ["filename_prefix"]),
    ("SaveImage", ["filename_prefix"]),
    ("ImageLoad", ["image"]),
    ("LoadImage", ["image"]),
    ("ImageResize", ["width", "height", "interpolation"]),
    ("ImageScale", ["scale_factor", "interpolation"]),
    ("LatentImage", ["width", "height", "batch_size"]),
    ("EmptyLatent", ["width", "height", "batch_size"]),
    ("LatentUpscale", ["scale_factor", "method"]),
    ("LoRA", ["lora_name", "strength_model", "strength_clip"]),
    ("Lora", ["lora_name", "strength_model", "strength_clip"]),
    ("ControlNet", ["strength", "start_percent", "end_percent"]),
    ("VAEDecode", []),
    ("VAEEncode", []),
    ("VAE", []),
    ("Math", ["operation", "value_a", "value_b"]),
    ("Text", ["text"]),
    ("Float", ["value"]),
    ("Int", ["value"]),
    ("String", ["value"])]

/-- The widget names that the name of a type suggests; none if it has no known part. -/
def suggestedOrder (type : String) : List String :=
  ((suggestions.find? fun (part, _) => contains type part).map Prod.snd).getD []

end NodeWorkflow.Catalog
