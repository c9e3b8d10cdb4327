/-!
# The zlib License

`Builtin.zlib` : the lines of its template.
-/

namespace LicenseForge.Builtin

/-- The template of the zlib License. -/
def zlib : List String :=
  ["id: zlib",
   "name: zlib License",
   "spdx: Zlib",
   "category: Permissive",
   "description: A short permissive license, compatible with GPL. Requires altered " ++
     "source versions to be documented as such.",
   "permissions:",
   "  - Commercial use",
   "  - Modification",
   "  - Distribution",
   "  - Private use",
   "conditions:",
   "  - License and copyright notice",
   "  - State changes",
   "limitations:",
   "  - Liability",
   "  - Warranty",
   "---",
   "zlib License",
   "",
   "Copyright (c) \x7b\x7byear\x7d\x7d \x7b\x7bname\x7d\x7d",
   "",
   "This software is provided 'as-is', without any express or implied",
   "warranty. In no event will the authors be held liable for any damages",
   "arising from the use of this software.",
   "",
   "Permission is granted to anyone to use this software for any purpose,",
   "including commercial applications, and to alter it and redistribute it",
   "freely, subject to the following restrictions:",
   "",
   "1. The origin of this software must not be misrepresented; you must not",
   "   claim that you wrote the original software. If you use this software",
   "   in a product, an acknowledgment in the product documentation would be",
   "   appreciated but is not required.",
   "2. Altered source versions must be plainly marked as such, and must not be",
   "   misrepresented as being the original software.",
   "3. This notice may not be removed or altered from any source distribution."]

end LicenseForge.Builtin
