import ClickGen.Text.Basic

/-!
The templates that come with the program: the module of a command, and the facade that the
command calls.
-/

namespace ClickGen.Shipped

/-- Lines, each with its end. -/
def lines (ls : List String) : Text := ls.flatMap fun l => l.toList ++ ['\n']

/-- The module of a command, with its subcommands. -/
def command : Text := lines [
  "import click",
  "from opnsense_cli.formatters.cli_output import CliOutputFormatter",
  "from opnsense_cli.callbacks.click import \\",
  "    formatter_from_formatter_name, bool_as_string, available_formats, tuple_to_csv",
  "from opnsense_cli.api.client import ApiClient",
  "from opnsense_cli.api.\x7b\x7b module_type \x7d\x7d.\x7b\x7b click_group_module \x7d\x7d import Settings, Service",
  "from opnsense_cli.commands.\x7b\x7b module_type \x7d\x7d.\x7b\x7b click_group_module \x7d\x7d import \x7b\x7b click_group \x7d\x7d",
  "from opnsense_cli.facades.commands.\x7b\x7b module_type \x7d\x7d.\x7b\x7b click_group_module \x7d\x7d.\x7b\x7b click_command_module \x7d\x7d import \\",
  "    \x7b\x7b click_group | capitalize \x7d\x7d\x7b\x7b click_command | capitalize \x7d\x7dFacade",
  "",
  "pass_api_client = click.make_pass_decorator(ApiClient)",
  "pass_\x7b\x7b click_group \x7d\x7d_\x7b\x7b click_command \x7d\x7d_svc = click.make_pass_decorator(\x7b\x7b click_group | capitalize \x7d\x7d\x7b\x7b click_command | capitalize \x7d\x7dFacade)",
  "",
  "COLUMNS = \x7b\x7b column_list \x7d\x7d",
  "",
  "",
  "@\x7b\x7b click_group \x7d\x7d.group()",
  "@pass_api_client",
  "@click.pass_context",
  "def \x7b\x7b click_command \x7d\x7d(ctx, api_client: ApiClient, **kwargs):",
  "    \"\"\"",
  "    Manage \x7b\x7b click_group \x7d\x7d \x7b\x7b click_command \x7d\x7d",
  "    \"\"\"",
  "    settings_api = Settings(api_client)",
  "    service_api = Service(api_client)",
  "    ctx.obj = \x7b\x7b click_group | capitalize \x7d\x7d\x7b\x7b click_command | capitalize \x7d\x7dFacade(settings_api, service_api)",
  "",
  "",
  "@\x7b\x7b click_command \x7d\x7d.command()",
  "@click.option(",
  "    '--output', '-o',",
  "    help='Specifies the Output format.',",
  "    default=\"table\",",
  "    type=click.Choice(available_formats()),",
  "    callback=formatter_from_formatter_name,",
  "    show_default=True,",
  ")",
  "@click.option(",
  "    '--cols', '-c',",
  "    help='Which columns should be printed? Pass empty string (-c '') to show all columns',",
  "    default=','.join(COLUMNS),",
  "    show_default=True,",
  ")",
  "@pass_\x7b\x7b click_group \x7d\x7d_\x7b\x7b click_command \x7d\x7d_svc",
  "def list(svc, **kwargs):",
  "    \"\"\"",
  "    Show all \x7b\x7b click_command \x7d\x7d",
  "    \"\"\"",
  "    result = svc.list_\x7b\x7b click_command \x7d\x7ds()",
  "",
  "    CliOutputFormatter(result, kwargs['output'], kwargs['cols'].split(\",\")).echo()",
  "",
  "",
  "@\x7b\x7b click_command \x7d\x7d.command()",
  "@click.argument('uuid')",
  "@click.option(",
  "    '--output', '-o',",
  "    help='Specifies the Output format.',",
  "    default=\"table\",",
  "    type=click.Choice(available_formats()),",
  "    callback=formatter_from_formatter_name,",
  "    show_default=True,",
  ")",
  "@click.option(",
  "    '--cols', '-c',",
  "    help='Which columns should be printed? Pass empty string (-c '') to show all columns',",
  "    default=','.join(COLUMNS),",
  "    show_default=True,",
  ")",
  "@pass_\x7b\x7b click_group \x7d\x7d_\x7b\x7b click_command \x7d\x7d_svc",
  "def show(svc, uuid, **kwargs):",
  "    \"\"\"",
  "    Show details for \x7b\x7b click_command \x7d\x7d",
  "    \"\"\"",
  "    result = svc.show_\x7b\x7b click_command \x7d\x7d(uuid)",
  "",
  "    CliOutputFormatter(result, kwargs['output'], kwargs['cols'].split(\",\")).echo()",
  "",
  "",
  "@\x7b\x7b click_command \x7d\x7d.command()",
  "@click.argument('name')",
  "\x7b% for option in click_options_create -%\x7d",
  "\x7b\x7b option \x7d\x7d",
  "\x7b% endfor -%\x7d",
  "@click.option(",
  "    '--output', '-o',",
  "    help='Specifies the Output format.',",
  "    default=\"plain\",",
  "    type=click.Choice(available_formats()),",
  "    callback=formatter_from_formatter_name,",
  "    show_default=True,",
  ")",
  "@pass_\x7b\x7b click_group \x7d\x7d_\x7b\x7b click_command \x7d\x7d_svc",
  "def create(svc, name, **kwargs):",
  "    \"\"\"",
  "    Create a new \x7b\x7b click_command \x7d\x7d",
  "    \"\"\"",
  "    output = kwargs.pop('output')",
  "    json_payload = \x7b",
  "        '\x7b\x7b click_command \x7d\x7d': \x7b'name': name, **kwargs\x7d",
  "    \x7d",
  "",
  "    result = svc.create_\x7b\x7b click_command \x7d\x7d(json_payload)",
  "",
  "    CliOutputFormatter(result, output, ['result', 'validations']).echo()",
  "",
  "",
  "@\x7b\x7b click_command \x7d\x7d.command()",
  "@click.argument('uuid')",
  "\x7b% for option in click_options_update -%\x7d",
  "\x7b\x7b option \x7d\x7d",
  "\x7b% endfor -%\x7d",
  "@click.option(",
  "    '--output', '-o',",
  "    help='Specifies the Output format.',",
  "    default=\"plain\",",
  "    type=click.Choice(available_formats()),",
  "    callback=formatter_from_formatter_name,",
  "    show_default=True,",
  ")",
  "@pass_\x7b\x7b click_group \x7d\x7d_\x7b\x7b click_command \x7d\x7d_svc",
  "def update(svc, uuid, **kwargs):",
  "    \"\"\"",
  "    Update a \x7b\x7b click_command \x7d\x7d.",
  "    \"\"\"",
  "    output = kwargs.pop('output')",
  "    json_payload = \x7b",
  "        '\x7b\x7b click_command \x7d\x7d': \x7bkey: value for key, value in kwargs.items() if value is not None\x7d",
  "    \x7d",
  "",
  "    result = svc.update_\x7b\x7b click_command \x7d\x7d(uuid, json_payload)",
  "",
  "    CliOutputFormatter(result, output, ['result', 'validations']).echo()",
  "",
  "",
  "@\x7b\x7b click_command \x7d\x7d.command()",
  "@click.argument('uuid')",
  "@click.option(",
  "    '--output', '-o',",
  "    help='Specifies the Output format.',",
  "    default=\"plain\",",
  "    type=click.Choice(available_formats()),",
  "    callback=formatter_from_formatter_name,",
  "    show_default=True,",
  ")",
  "@pass_\x7b\x7b click_group \x7d\x7d_\x7b\x7b click_command \x7d\x7d_svc",
  "def delete(svc, uuid, **kwargs):",
  "    \"\"\"",
  "    Delete \x7b\x7b click_command \x7d\x7d",
  "    \"\"\"",
  "    result = svc.delete_\x7b\x7b click_command \x7d\x7d(uuid)",
  "",
  "    CliOutputFormatter(result, kwargs['output'], ['result', 'validations']).echo()"]

/-- The facade between a command and the calls that it makes. -/
def facade : Text := lines [
  "from opnsense_cli.api.\x7b\x7b module_type \x7d\x7d.\x7b\x7b click_group_module \x7d\x7d import Settings, Service",
  "from opnsense_cli.exceptions.command import CommandException",
  "from opnsense_cli.facades.commands.base import CommandFacade",
  "",
  "",
  "class \x7b\x7b click_group | capitalize \x7d\x7d\x7b\x7b click_command | capitalize \x7d\x7dFacade(CommandFacade):",
  "    jsonpath_base = '$.\x7b\x7b click_group \x7d\x7d.\x7b\x7b click_command \x7d\x7d'",
  "    uuid_resolver_map = \x7b\x7d",
  "    columns = \x7b\x7b column_list \x7d\x7d",
  "",
  "    def __init__(self, settings_api: Settings, service_api: Service):",
  "        super().__init__()",
  "        self._complete_model_data_cache = None",
  "        self._settings_api = settings_api",
  "        self._service_api = service_api",
  "",
  "    def list_\x7b\x7b click_command \x7d\x7ds(self):",
  "        return self._api_mutable_model_get(self._complete_model_data, self.jsonpath_base, self.uuid_resolver_map)",
  "",
  "    def show_\x7b\x7b click_command \x7d\x7d(self, uuid):",
  "        \x7b\x7b click_command \x7d\x7ds = self.list_\x7b\x7b click_command \x7d\x7ds()",
  "        return self._search_list_by_field(\x7b\x7b click_command \x7d\x7ds, uuid, 'uuid')",
  "",
  "    def create_\x7b\x7b click_command \x7d\x7d(self, json_payload: dict):",
  "        result = self._settings_api.add_\x7b\x7b click_command \x7d\x7d(json=json_payload)",
  "        self._apply(result)",
  "        return result",
  "",
  "    def update_\x7b\x7b click_command \x7d\x7d(self, uuid, json_payload: dict):",
  "        result = self._settings_api.set_\x7b\x7b click_command \x7d\x7d(uuid, json=json_payload)",
  "        self._apply(result)",
  "        return result",
  "",
  "    def delete_\x7b\x7b click_command \x7d\x7d(self, uuid):",
  "        result = self._settings_api.del_\x7b\x7b click_command \x7d\x7d(uuid)",
  "        self._apply(result)",
  "        return result",
  "",
  "    def _apply(self, result_admin_action):",
  "        if result_admin_action['result'] not in ['saved', 'deleted']:",
  "            raise CommandException(result_admin_action)",
  "",
  "        self._complete_model_data_cache = None",
  "        self._service_api.reconfigure()",
  "",
  "    @property",
  "    def _complete_model_data(self):",
  "        if self._complete_model_data_cache is None:",
  "            self._complete_model_data_cache = self._settings_api.get()",
  "        return self._complete_model_data_cache"]

end ClickGen.Shipped
