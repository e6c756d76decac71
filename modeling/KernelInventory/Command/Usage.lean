import KernelInventory.Command.Options

/-!
# Usage and help

The texts that tell how the command is used.
-/

namespace KernelInventory
namespace Command

/-- The name of the command in its messages. -/
def programName : String := "kinv"

/-- The summary of the switches. -/
def usage : String :=
  "usage: kinv [-h] [--kernel-path KERNEL_PATH] [--arch ARCH] [--lines]\n" ++
  "            [--kconfig] [--kconfig-code] [--all] [--skip-help]\n" ++
  "            [--exclude EXCLUDE] [--no-query]\n" ++
  "            [--log-level \x7bDEBUG,INFO,WARNING,ERROR\x7d]\n"

/-- The explanation of the switches. -/
def help : String :=
  usage ++ "\n" ++
  "Inventory a Linux kernel tree.\n" ++
  "\n" ++
  "options:\n" ++
  "  -h, --help            show this help message and exit\n" ++
  "  --kernel-path KERNEL_PATH, -k KERNEL_PATH\n" ++
  "                        Kernel source tree to inspect.\n" ++
  "  --arch ARCH, -a ARCH  Comma-separated architectures under arch/.\n" ++
  "  --lines               Count blank, comment and code lines per file type.\n" ++
  "  --kconfig             Resolve and parse Kconfig files.\n" ++
  "  --kconfig-code        Attach #ifdef CONFIG_ blocks to components (requires\n" ++
  "                        --kconfig).\n" ++
  "  --all                 Follow every source directive, not only those under\n" ++
  "                        arch/.\n" ++
  "  --skip-help           Ignore Kconfig help text while parsing.\n" ++
  "  --exclude EXCLUDE     Gitignore-style pattern to skip, relative to --kernel-\n" ++
  "                        path; repeatable.\n" ++
  "  --no-query            Skip the interactive component lookup.\n" ++
  "  --log-level \x7bDEBUG,INFO,WARNING,ERROR\x7d\n" ++
  "                        Logging threshold.\n"

/-- The message of a refusal. -/
def complaint (refusal : Refusal) : String :=
  usage ++ s!"{programName}: error: {refusal.message}\n"

end Command
end KernelInventory
