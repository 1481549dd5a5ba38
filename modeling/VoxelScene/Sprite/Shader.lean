/-!
The shader that draws sprites.

Each sprite is a quad that faces the camera and stands on its position; its width and height are the
lengths of the first two columns of its matrix.
-/

namespace VoxelScene

/-- The lines of the shader. -/
def spriteShaderLines : List String := [
  "",
  "struct Camera \x7b",
  "    view_proj: mat4x4<f32>,",
  "    right: vec4<f32>,",
  "    up: vec4<f32>,",
  "\x7d;",
  "",
  "@group(0) @binding(0)",
  "var<uniform> camera: Camera;",
  "",
  "@group(1) @binding(0)",
  "var t_sprite: texture_2d<f32>;",
  "@group(1) @binding(1)",
  "var s_sprite: sampler;",
  "",
  "struct VertexInput \x7b",
  "    @location(0) corner: vec2<f32>,",
  "    @location(2) model_0: vec4<f32>,",
  "    @location(3) model_1: vec4<f32>,",
  "    @location(4) model_2: vec4<f32>,",
  "    @location(5) model_3: vec4<f32>,",
  "    @location(6) tint: vec4<f32>,",
  "\x7d;",
  "",
  "struct VertexOutput \x7b",
  "    @builtin(position) clip_position: vec4<f32>,",
  "    @location(0) uv: vec2<f32>,",
  "    @location(1) tint: vec4<f32>,",
  "\x7d;",
  "",
  "@vertex",
  "fn vs_main(in: VertexInput) -> VertexOutput \x7b",
  "    let center = in.model_3.xyz;",
  "    let width = length(in.model_0.xyz);",
  "    let height = length(in.model_1.xyz);",
  "    let world = center",
  "        + camera.right.xyz * in.corner.x * width",
  "        + camera.up.xyz * in.corner.y * height;",
  "",
  "    var out: VertexOutput;",
  "    out.clip_position = camera.view_proj * vec4<f32>(world, 1.0);",
  "    out.uv = vec2<f32>(in.corner.x + 0.5, 1.0 - in.corner.y);",
  "    out.tint = in.tint;",
  "    return out;",
  "\x7d",
  "",
  "@fragment",
  "fn fs_main(in: VertexOutput) -> @location(0) vec4<f32> \x7b",
  "    let color = textureSample(t_sprite, s_sprite, in.uv) * in.tint;",
  "    if color.a < 0.01 \x7b",
  "        discard;",
  "    \x7d",
  "    return color;",
  "\x7d",
  ""]

/-- The text of the shader. -/
def spriteShader : String := "\n".intercalate spriteShaderLines

end VoxelScene
