/-!
# The name of the program

What the program calls itself on its window, at its start and in its reports.
-/

namespace Chip8.Product

/-- The title of the window. -/
def name : String := "ChipCell Emulator"

/-- The version that is reported. -/
def version : String := "1.0.0"

/-- The beginning of the first line and of every report. -/
def intro : String := s!"{name} V{version} -- "

/-- The first line that is shown. -/
def banner : String :=
  intro ++
    "Copyright (C) 2022 Gregory Maynard-Hoare, licensed under GNU Affero General Public License v3.0"

end Chip8.Product
